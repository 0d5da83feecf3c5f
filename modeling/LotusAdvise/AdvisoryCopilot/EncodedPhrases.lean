import LotusAdvise.AdvisoryCopilot.Guardrails

/-! # Encoded phrases

Wherever a phrase stands in a text, the text without separators contains the phrase without
separators. A base64 encoding of it is found where the encoding has twelve characters up to its last
word character; shorter ones are passed over, and so is a last symbol that is no word character.
-/

namespace LotusAdvise.AdvisoryCopilot

open Words

section Lowering

variable {unicode : UnicodeTables} {before cs after : List Char}

theorem lowerFrom_append_of_ascii (h : ∀ c ∈ cs, isAscii c = true) :
    lowerFrom unicode before (cs ++ after) =
      cs.map Char.toLower ++ lowerFrom unicode (cs.reverse ++ before) after := by
  induction cs generalizing before with
  | nil => rfl
  | cons c cs ih =>
    rw [List.forall_mem_cons] at h
    rw [List.cons_append, lowerFrom, if_pos h.1, ih h.2, List.map_cons, List.reverse_cons,
      List.append_assoc, List.singleton_append]
    rfl

theorem lower_of_ascii (h : ∀ c ∈ cs, isAscii c = true) :
    lower unicode cs = cs.map Char.toLower := by
  have happend : lowerFrom unicode [] (cs ++ []) = _ := lowerFrom_append_of_ascii h
  rw [List.append_nil] at happend
  rw [lower, happend, lowerFrom, List.append_nil]

theorem exists_lowerFrom_append (before front cs : List Char) :
    ∃ lowered, lowerFrom unicode before (front ++ cs) =
      lowered ++ lowerFrom unicode (front.reverse ++ before) cs := by
  induction front generalizing before with
  | nil => exact ⟨[], rfl⟩
  | cons c front ih =>
    obtain ⟨lowered, hlowered⟩ := ih (c :: before)
    rw [List.cons_append, lowerFrom, hlowered, List.reverse_cons, List.append_assoc,
      List.singleton_append, ← List.append_assoc]
    exact ⟨_, rfl⟩

/-- An ASCII part of a text is lowered in its place. -/
theorem map_toLower_within_lower (h : ∀ c ∈ cs, isAscii c = true) :
    cs.map Char.toLower <:+: lower unicode (before ++ cs ++ after) := by
  obtain ⟨lowered, hlowered⟩ :=
    @exists_lowerFrom_append unicode [] before (cs ++ after)
  rw [lower, List.append_assoc, hlowered, lowerFrom_append_of_ascii h, ← List.append_assoc]
  exact ⟨lowered, _, rfl⟩

theorem compact_of_ascii (h : ∀ c ∈ cs, isAscii c = true) :
    compactForPhraseMatch unicode cs = (cs.map Char.toLower).filter fun c => !isSeparator c := by
  rw [compactForPhraseMatch, lower_of_ascii h]

theorem compact_within (h : ∀ c ∈ cs, isAscii c = true) :
    compactForPhraseMatch unicode cs <:+:
      compactForPhraseMatch unicode (before ++ cs ++ after) := by
  rw [compact_of_ascii h]
  exact (map_toLower_within_lower h).filter _

end Lowering

section Matching

variable {unicode : UnicodeTables} {value : List Char}

theorem toNat_of_isLower {c : Char} (h : c.isLower = true) : 97 ≤ c.toNat ∧ c.toNat ≤ 122 := by
  change (decide (97 ≤ c.val) && decide (c.val ≤ 122)) = true at h
  simp only [Bool.and_eq_true, decide_eq_true_eq] at h
  exact h

theorem toNat_of_isDigit {c : Char} (h : c.isDigit = true) : 48 ≤ c.toNat ∧ c.toNat ≤ 57 := by
  simp only [Char.isDigit, Bool.and_eq_true, decide_eq_true_eq] at h
  exact h

theorem isSeparator_of_isSpace {c : Char} (h : Text.isSpace c = true) : isSeparator c = true := by
  simp only [Text.isSpace, Bool.or_eq_true, Bool.and_eq_true, decide_eq_true_eq] at h
  by_contra hkept
  rw [Bool.not_eq_true, isSeparator, Bool.not_eq_false', Bool.or_eq_true] at hkept
  rcases hkept with hlower | hdigit
  · have := toNat_of_isLower hlower
    omega
  · have := toNat_of_isDigit hdigit
    omega

theorem filter_subSeparators (inRun : Bool) (cs : List Char) :
    (subSeparators inRun cs).filter (fun c => !isSeparator c) =
      cs.filter fun c => !isSeparator c := by
  induction cs generalizing inRun with
  | nil => rfl
  | cons c cs ih =>
    rw [subSeparators]
    by_cases hc : isSeparator c = true
    · rw [if_pos hc, List.filter_cons_of_neg (by simp [hc])]
      split
      · exact ih true
      · rw [List.filter_cons_of_neg (by decide), ih true]
    · rw [if_neg hc, List.filter_cons_of_pos (by simpa using hc),
        List.filter_cons_of_pos (by simpa using hc), ih false]

theorem filter_dropWhile {α : Type*} {drops keeps : α → Bool} (h : ∀ x, drops x → keeps x = false)
    (xs : List α) : (xs.dropWhile drops).filter keeps = xs.filter keeps := by
  induction xs with
  | nil => rfl
  | cons x xs ih =>
    by_cases hx : drops x = true
    · rw [List.dropWhile_cons_of_pos hx, ih, List.filter_cons_of_neg (by simp [h x hx])]
    · rw [List.dropWhile_cons_of_neg hx]

theorem filter_stripChars (cs : List Char) :
    (Text.stripChars cs).filter (fun c => !isSeparator c) = cs.filter fun c => !isSeparator c := by
  have hdrops : ∀ c, Text.isSpace c = true → (!isSeparator c) = false := by
    intro c hc
    rw [isSeparator_of_isSpace hc]
    rfl
  rw [Text.stripChars, List.filter_reverse, filter_dropWhile hdrops, List.filter_reverse,
    List.reverse_reverse, filter_dropWhile hdrops]

/-- Both normal forms have the same characters besides the spaces. -/
theorem filter_normalize :
    (normalizeForPhraseMatch unicode value).filter (fun c => !isSeparator c) =
      compactForPhraseMatch unicode value := by
  rw [normalizeForPhraseMatch, filter_stripChars, filter_subSeparators, compactForPhraseMatch]

theorem filter_compact :
    (compactForPhraseMatch unicode value).filter (fun c => !isSeparator c) =
      compactForPhraseMatch unicode value := by
  rw [compactForPhraseMatch, List.filter_filter]
  simp only [Bool.and_self]

/-- A phrase is in a variant of a text if, without separators, it is in the text. -/
theorem infix_of_phraseMatches {phrase : String} {variants : List (List Char)}
    (hvariants : ∀ variant ∈ variants,
      variant.filter (fun c => !isSeparator c) = compactForPhraseMatch unicode value)
    (h : phraseMatches unicode phrase variants = true) :
    compactForPhraseMatch unicode phrase.toList <:+: compactForPhraseMatch unicode value := by
  obtain ⟨variant, hvariant, hmatch⟩ := List.any_eq_true.mp h
  rw [← hvariants variant hvariant]
  rcases of_decide_eq_true hmatch with hnormalized | hcompact
  · rw [← filter_normalize]
    exact hnormalized.filter _
  · rw [← filter_compact]
    exact hcompact.filter _

theorem mem_normalizedTextVariants {text : List Char} {variant : List Char} :
    variant ∈ normalizedTextVariants unicode text ↔ variant ≠ [] ∧
      ∃ decoded, (decoded = text ∨ decoded ∈ decodedBase64Candidates unicode text) ∧
        (variant = normalizeForPhraseMatch unicode decoded ∨
          variant = compactForPhraseMatch unicode decoded) := by
  unfold normalizedTextVariants
  dsimp only
  rw [List.mem_eraseDups, List.mem_filter, decide_eq_true_eq, and_comm]
  refine and_congr_right fun _ => ?_
  simp only [List.mem_cons, List.mem_flatMap, List.not_mem_nil, or_false]
  constructor
  · rintro (rfl | rfl | ⟨decoded, hdecoded, hvariant⟩)
    · exact ⟨text, .inl rfl, .inl rfl⟩
    · exact ⟨text, .inl rfl, .inr rfl⟩
    · exact ⟨decoded, .inr hdecoded, hvariant⟩
  · rintro ⟨decoded, rfl | hdecoded, hvariant⟩
    · rcases hvariant with rfl | rfl
      · exact .inl rfl
      · exact .inr (.inl rfl)
    · exact .inr (.inr ⟨decoded, hdecoded, hvariant⟩)

/-- A phrase in the text, or in what a candidate of it says, is found. -/
theorem containsPhrase_of_decoded {text phrase : String} {phrases : List String}
    (decoded : List Char) (hphrase : phrase ∈ phrases)
    (hne : compactForPhraseMatch unicode phrase.toList ≠ [])
    (hdecoded : decoded = text.toList ∨ decoded ∈ decodedBase64Candidates unicode text.toList)
    (h : compactForPhraseMatch unicode phrase.toList <:+: compactForPhraseMatch unicode decoded) :
    containsPhrase unicode text phrases = true := by
  have hdecodedNe : compactForPhraseMatch unicode decoded ≠ [] := by
    intro hnil
    rw [hnil, List.infix_nil] at h
    exact hne h
  have htext : text ≠ "" := by
    rintro rfl
    rcases hdecoded with rfl | hmem
    · exact hdecodedNe rfl
    · cases hmem
  rw [containsPhrase, if_neg htext, List.any_eq_true]
  refine ⟨phrase, hphrase, List.any_eq_true.mpr ⟨compactForPhraseMatch unicode decoded, ?_, ?_⟩⟩
  · exact mem_normalizedTextVariants.mpr ⟨hdecodedNe, decoded, hdecoded, .inr rfl⟩
  · exact decide_eq_true (.inr h)

/-- Where no candidate is found, only the text itself is searched. -/
theorem infix_of_containsPhrase {text : String} {phrases : List String}
    (hnone : findCandidates unicode none 0 text.toList = [])
    (h : containsPhrase unicode text phrases = true) :
    ∃ phrase ∈ phrases, compactForPhraseMatch unicode phrase.toList <:+:
      compactForPhraseMatch unicode text.toList := by
  rw [containsPhrase] at h
  split at h
  · cases h
  · obtain ⟨phrase, hphrase, hmatch⟩ := List.any_eq_true.mp h
    refine ⟨phrase, hphrase, infix_of_phraseMatches ?_ hmatch⟩
    intro variant hvariant
    obtain ⟨-, decoded, hdecoded, hform⟩ := mem_normalizedTextVariants.mp hvariant
    rw [decodedBase64Candidates, hnone] at hdecoded
    obtain rfl | hmem := hdecoded
    · rcases hform with rfl | rfl
      · exact filter_normalize
      · exact filter_compact
    · cases hmem

end Matching

section Searching

variable {unicode : UnicodeTables} {before : Option Char} {symbols gap rest cs : List Char}

theorem longestCandidate_of_lt {n : ℕ} (h : n < 12) : longestCandidate unicode cs n = none := by
  induction n with
  | zero => rfl
  | succ n ih =>
    rw [longestCandidate, if_neg (fun hfound => absurd hfound.1 (by omega)), ih (by omega)]

theorem le_of_longestCandidate {n length : ℕ} (h : longestCandidate unicode cs n = some length) :
    length ≤ n := by
  induction n with
  | zero => cases h
  | succ n ih =>
    rw [longestCandidate] at h
    split at h
    · exact (Option.some.inj h).ge
    · exact (ih h).trans n.le_succ

theorem le_of_candidateAt {length : ℕ} (h : candidateAt unicode before cs = some length) :
    length ≤ (cs.takeWhile inCandidateClass).length := by
  rw [candidateAt] at h
  split at h
  · exact le_of_longestCandidate h
  · cases h

/-- No candidate ends among characters that are no word characters, before another one. -/
theorem longestCandidate_append (symbols : List Char)
    (hgap : ∀ c ∈ gap, isWordChar unicode c = false)
    (hrest : rest.head?.any (isWordChar unicode) = false) {k : ℕ} (hk : k ≤ gap.length) :
    longestCandidate unicode (symbols ++ (gap ++ rest)) (symbols.length + k) =
      longestCandidate unicode (symbols ++ (gap ++ rest)) symbols.length := by
  induction k with
  | zero => rfl
  | succ k ih =>
    have hlt : k < gap.length := hk
    have htake : (symbols ++ (gap ++ rest)).take (symbols.length + (k + 1)) =
        symbols ++ (gap.take k ++ [gap[k]]) := by
      rw [List.take_length_add_append, List.take_append_of_le_length hk, List.take_add_one,
        List.getElem?_eq_getElem hlt]
      rfl
    have hdrop : (symbols ++ (gap ++ rest)).drop (symbols.length + (k + 1)) =
        gap.drop (k + 1) ++ rest := by
      rw [List.drop_length_add_append, List.drop_append_of_le_length hk]
    have hnext : (gap.drop (k + 1) ++ rest).head?.any (isWordChar unicode) = false := by
      rcases hafter : gap.drop (k + 1) with _ | ⟨c, after⟩
      · exact hrest
      · exact hgap c (List.mem_of_mem_drop (hafter ▸ List.mem_cons_self))
    have hinside : atBoundary unicode (symbols ++ (gap.take k ++ [gap[k]])).getLast?
        (gap.drop (k + 1) ++ rest).head? = false := by
      rw [atBoundary, hnext, ← List.append_assoc, List.getLast?_concat]
      simpa using hgap gap[k] (List.getElem_mem hlt)
    rw [← Nat.add_assoc, longestCandidate, Nat.add_assoc, htake, hdrop, hinside,
      if_neg (fun hfound => absurd hfound.2 Bool.false_ne_true)]
    exact ih hlt.le

/-- What is found behind a space is found in the whole text. -/
theorem findCandidates_append_space (front : List Char) {skip : ℕ}
    {candidate : List Char}
    (hskip : skip ≤ ((front ++ ' ' :: rest).takeWhile inCandidateClass).length)
    (h : candidate ∈ findCandidates unicode (some ' ') 0 rest) :
    candidate ∈ findCandidates unicode before skip (front ++ ' ' :: rest) := by
  induction front generalizing before skip with
  | nil =>
    rw [List.nil_append, List.takeWhile_cons_of_neg (by decide)] at hskip
    obtain rfl := Nat.le_zero.mp hskip
    have hnone : candidateAt unicode before (' ' :: rest) = none := by
      rw [candidateAt, List.takeWhile_cons_of_neg (by decide)]
      split <;> rfl
    rw [List.nil_append, findCandidates, hnone]
    exact h
  | cons c front ih =>
    rw [List.cons_append] at hskip ⊢
    cases skip with
    | succ skip =>
      refine ih ?_
      rw [List.takeWhile_cons] at hskip
      split at hskip
      · exact Nat.le_of_succ_le_succ hskip
      · cases hskip
    | zero =>
      rw [findCandidates]
      cases hfound : candidateAt unicode before (c :: (front ++ ' ' :: rest)) with
      | none => exact ih (Nat.zero_le _)
      | some length =>
        have hle := le_of_candidateAt hfound
        refine List.mem_cons_of_mem _ (ih ?_)
        rw [List.takeWhile_cons] at hle
        split at hle
        · exact Nat.sub_le_of_le_add hle
        · obtain rfl := Nat.le_zero.mp hle
          exact Nat.zero_le _

/-- Symbols from one word character to another are a candidate if there are twelve of them. -/
theorem mem_findCandidates {c d : Char} (hhead : symbols.head? = some c)
    (hlast : symbols.getLast? = some d) (hc : isWordChar unicode c = true)
    (hd : isWordChar unicode d = true)
    (hclass : ∀ c ∈ symbols ++ gap, inCandidateClass c = true)
    (hgap : ∀ c ∈ gap, isWordChar unicode c = false) (hlength : 12 ≤ symbols.length) :
    symbols ∈ findCandidates unicode (some ' ') 0 (symbols ++ (gap ++ ' ' :: rest)) := by
  obtain ⟨symbols', rfl⟩ := List.head?_eq_some_iff.mp hhead
  have hrun : ((c :: symbols' ++ (gap ++ ' ' :: rest)).takeWhile inCandidateClass).length =
      (c :: symbols').length + gap.length := by
    rw [← List.append_assoc, List.takeWhile_append_of_pos hclass,
      List.takeWhile_cons_of_neg (by decide), List.append_nil, List.length_append]
  have hafter : (gap ++ ' ' :: rest).head?.any (isWordChar unicode) = false := by
    cases gap with
    | nil => rfl
    | cons g gap => exact hgap g List.mem_cons_self
  have hends : longestCandidate unicode (c :: symbols' ++ (gap ++ ' ' :: rest))
      (c :: symbols').length = some (c :: symbols').length := by
    rw [List.length_cons, longestCandidate, ← List.length_cons (a := c), List.take_left,
      List.drop_left, hlast]
    refine if_pos ⟨hlength, ?_⟩
    rw [atBoundary, hafter, Option.any_some, hd]
    rfl
  have hat : candidateAt unicode (some ' ') (c :: symbols' ++ (gap ++ ' ' :: rest)) =
      some (c :: symbols').length := by
    have hstart : atBoundary unicode (some ' ')
        (c :: symbols' ++ (gap ++ ' ' :: rest)).head? = true := by
      rw [List.cons_append, List.head?_cons, atBoundary, Option.any_some, Option.any_some, hc]
      rfl
    rw [candidateAt, if_pos hstart, hrun, longestCandidate_append _ hgap rfl le_rfl, hends]
  rw [List.cons_append, findCandidates, ← List.cons_append, hat]
  dsimp only
  rw [List.take_left]
  exact List.mem_cons_self

theorem candidateAt_of_short (before : Option Char) (hlength : symbols.length < 12)
    (hgap : ∀ c ∈ gap, isWordChar unicode c = false) :
    candidateAt unicode before (symbols ++ gap) = none := by
  rw [candidateAt]
  split
  · have hrun : ((symbols ++ gap).takeWhile inCandidateClass).length ≤
        symbols.length + gap.length := by
      rw [← List.length_append]
      exact (List.takeWhile_prefix _).length_le
    rcases Nat.lt_or_ge ((symbols ++ gap).takeWhile inCandidateClass).length 12 with hlt | hge
    · exact longestCandidate_of_lt hlt
    · obtain ⟨k, hk⟩ := Nat.exists_eq_add_of_le (hlength.le.trans hge)
      rw [hk] at hrun ⊢
      have happend : longestCandidate unicode (symbols ++ (gap ++ [])) (symbols.length + k) = _ :=
        longestCandidate_append symbols hgap rfl (Nat.le_of_add_le_add_left hrun)
      rw [List.append_nil] at happend
      rw [happend, longestCandidate_of_lt hlength]
  · rfl

/-- Fewer symbols are none, with nothing but other characters behind them. -/
theorem findCandidates_of_short (hlength : symbols.length < 12)
    (hgap : ∀ c ∈ gap, isWordChar unicode c = false) :
    findCandidates unicode before 0 (symbols ++ gap) = [] := by
  induction symbols generalizing before with
  | nil =>
    induction gap generalizing before with
    | nil => rfl
    | cons c gap ih =>
      have hat := candidateAt_of_short before hlength hgap
      rw [List.nil_append] at hat ⊢
      rw [findCandidates, hat]
      exact ih fun d hd => hgap d (List.mem_cons_of_mem _ hd)
  | cons c symbols ih =>
    have hat := candidateAt_of_short before hlength hgap
    rw [List.cons_append] at hat ⊢
    rw [findCandidates, hat]
    exact ih ((Nat.lt_succ_self _).trans hlength)

end Searching

section Encoding

/-- The base64 encoding of an ASCII text. -/
def base64Text (urlSafe padded : Bool) (s : String) : String :=
  String.ofList (Base64.encode urlSafe padded (s.toList.map Char.toNat))

/-- The encoding has twelve symbols up to its last word character: the text has ten characters, or
nine of which the last one is not written as a sign. -/
def LongEnough (urlSafe : Bool) (cs : List Char) : Prop :=
  9 < cs.length ∨
    cs.length = 9 ∧ ∀ c ∈ cs.getLast?, c ≠ '>' ∧ c ≠ '~' ∧ (c = '?' → urlSafe = true)

variable {unicode : UnicodeTables} {urlSafe padded : Bool} {cs : List Char}

def Printable (cs : List Char) : Prop := ∀ c ∈ cs, 32 ≤ c.toNat ∧ c.toNat ≤ 126

instance (cs : List Char) : Decidable (Printable cs) :=
  List.decidableBAll (fun c : Char => 32 ≤ c.toNat ∧ c.toNat ≤ 126) cs

theorem Printable.ascii (h : Printable cs) : ∀ c ∈ cs, isAscii c = true := by
  intro c hc
  have := h c hc
  rw [isAscii, decide_eq_true_eq]
  omega

theorem Printable.bytes (h : Printable cs) : ∀ byte ∈ cs.map Char.toNat, byte < 128 := by
  rw [List.forall_mem_map]
  intro c hc
  have := h c hc
  omega

theorem map_ofNat_toNat (cs : List Char) : (cs.map Char.toNat).map Char.ofNat = cs := by
  rw [List.map_map]
  exact List.map_id'' Char.ofNat_toNat cs

theorem isWordChar_of_ascii {c : Char} (h : isAscii c = true) :
    isWordChar unicode c = (c.isAlphanum || c = '_') := by
  rw [isWordChar, if_pos h]

theorem isWordChar_symbol {n : ℕ} (h : n < 64) :
    isWordChar unicode (Base64.symbol urlSafe n) = (decide (n < 62) || (urlSafe && n = 63)) := by
  have hall : ∀ urlSafe, ∀ n < 64, isAscii (Base64.symbol urlSafe n) = true ∧
      ((Base64.symbol urlSafe n).isAlphanum || Base64.symbol urlSafe n = '_') =
        (decide (n < 62) || (urlSafe && n = 63)) := by decide
  rw [isWordChar_of_ascii (hall urlSafe n h).1]
  exact (hall urlSafe n h).2

theorem inCandidateClass_symbol {n : ℕ} (h : n < 64) :
    inCandidateClass (Base64.symbol urlSafe n) = true := by
  have hall : ∀ urlSafe, ∀ n < 64, inCandidateClass (Base64.symbol urlSafe n) = true := by decide
  exact hall urlSafe n h

/-- The last six bits of a printable character are written as a sign for three characters. -/
theorem isWordChar_lastSymbol {c : Char} (h : 32 ≤ c.toNat ∧ c.toNat ≤ 126) :
    isWordChar unicode (Base64.symbol urlSafe (c.toNat % 64)) = true ↔
      c ≠ '>' ∧ c ≠ '~' ∧ (c = '?' → urlSafe = true) := by
  have hall : ∀ urlSafe, ∀ n < 127, 32 ≤ n →
      ((decide (n % 64 < 62) || (urlSafe && n % 64 = 63)) = true ↔
        Char.ofNat n ≠ '>' ∧ Char.ofNat n ≠ '~' ∧ (Char.ofNat n = '?' → urlSafe = true)) := by
    decide
  have hchar := hall urlSafe c.toNat (by omega) h.1
  rw [Char.ofNat_toNat] at hchar
  rw [isWordChar_symbol (Nat.mod_lt _ (by omega))]
  exact hchar

theorem decodeBase64Candidate_symbols {ns : List ℕ} (hlt : ∀ n ∈ ns, n < 64)
    (hlength : ns.length % 4 ≠ 1) (hbytes : Base64.bytesOf ns = cs.map Char.toNat)
    (hne : cs ≠ []) (hprintable : Printable cs) :
    decodeBase64Candidate (ns.map (Base64.symbol urlSafe)) = some cs := by
  have hnormalized := Base64.map_standardSymbol urlSafe hlt
  have hall : (cs.map Char.toNat).all isPrintable = true := by
    rw [List.all_eq_true, List.forall_mem_map]
    intro c hc
    have hc := hprintable c hc
    simp only [isPrintable, Bool.or_eq_true, Bool.and_eq_true, decide_eq_true_eq]
    exact .inr hc
  unfold decodeBase64Candidate
  dsimp only
  rw [hnormalized, List.length_map, Base64.decode_symbols hlt hlength]
  dsimp only
  rw [hbytes, if_pos ⟨fun hnil => hne (List.map_eq_nil_iff.mp hnil), hall⟩, map_ofNat_toNat]

/-- What the search sees of the encoding of a text: the symbols up to the last word character. -/
structure SeenAs (unicode : UnicodeTables) (urlSafe padded : Bool) (cs : List Char) (ns : List ℕ)
    (gap : List Char) : Prop where
  encoded : Base64.encode urlSafe padded (cs.map Char.toNat) =
    ns.map (Base64.symbol urlSafe) ++ gap
  lt : ∀ n ∈ ns, n < 64
  head : ∃ n, ns.head? = some n ∧ n < 62
  last : ∃ n, ns.getLast? = some n ∧ isWordChar unicode (Base64.symbol urlSafe n) = true
  gap : ∀ c ∈ gap, inCandidateClass c = true ∧ isWordChar unicode c = false
  decoded : ∃ ds, decodeBase64Candidate (ns.map (Base64.symbol urlSafe)) = some ds ∧
    compactForPhraseMatch unicode ds = compactForPhraseMatch unicode cs
  length : 12 ≤ ns.length ↔ LongEnough urlSafe cs

theorem mem_padding {c : Char} {length : ℕ} (h : c ∈ Base64.padding length) :
    inCandidateClass c = true ∧ isWordChar unicode c = false := by
  obtain rfl := List.eq_of_mem_replicate h
  exact ⟨by decide, rfl⟩

theorem Printable.dropLast (h : Printable cs) : Printable cs.dropLast :=
  fun c hc => h c (List.mem_of_mem_dropLast hc)

/-- An encoding that ends in a word character, but for its padding, is seen as a whole. -/
theorem seenAs_sextets (h : Printable cs) (hne : cs ≠ [])
    (hend : cs.length % 3 = 0 → ∀ c ∈ cs.getLast?, c ≠ '>' ∧ c ≠ '~' ∧ (c = '?' → urlSafe = true)) :
    SeenAs unicode urlSafe padded cs (Base64.sextets (cs.map Char.toNat))
      (if padded then Base64.padding (Base64.sextets (cs.map Char.toNat)).length else []) := by
  have hpos : 0 < cs.length := List.length_pos_of_ne_nil hne
  have hbytes : ∀ byte ∈ cs.map Char.toNat, byte < 256 :=
    fun byte hbyte => (h.bytes byte hbyte).trans (by decide)
  have hlength : (Base64.sextets (cs.map Char.toNat)).length = (4 * cs.length + 2) / 3 := by
    rw [Base64.length_sextets, List.length_map]
  have hsextets : Base64.sextets (cs.map Char.toNat) ≠ [] :=
    List.ne_nil_of_length_pos (by omega)
  have hlt := Base64.sextets_lt hbytes
  refine ⟨rfl, hlt, ?_, ?_, ?_, ⟨cs, ?_, rfl⟩, ?_⟩
  · have hhead := List.head?_eq_some_head hsextets
    exact ⟨_, hhead, Base64.head?_sextets_lt h.bytes _ hhead⟩
  · have hlast := List.getLast?_eq_some_getLast hsextets
    refine ⟨_, hlast, ?_⟩
    by_cases hfull : cs.length % 3 = 0
    · have hcs := List.getLast?_eq_some_getLast hne
      have hmod : (cs.map Char.toNat).length % 3 = 0 := by
        rw [List.length_map]
        exact hfull
      have hbits := Base64.getLast?_sextets hmod
      rw [hlast, List.getLast?_map, hcs] at hbits
      rw [Option.some.inj hbits]
      exact (isWordChar_lastSymbol (h _ (List.getLast_mem hne))).mpr (hend hfull _ hcs)
    · have hlow := Base64.getLast?_sextets_lt hbytes (by simpa using hfull) _ hlast
      rw [isWordChar_symbol (by omega), decide_eq_true hlow, Bool.true_or]
  · intro c hc
    split at hc
    · exact mem_padding hc
    · cases hc
  · refine decodeBase64Candidate_symbols hlt ?_ (Base64.bytesOf_sextets hbytes) hne h
    rw [hlength]
    omega
  · rw [hlength, LongEnough]
    constructor
    · intro hlong
      rcases Nat.lt_or_ge 9 cs.length with hmore | hless
      · exact .inl hmore
      · have hnine : cs.length = 9 := by omega
        exact .inr ⟨hnine, hend (by omega)⟩
    · rintro (hmore | ⟨hnine, -⟩) <;> omega

/-- A last sign is not seen, and the text is read without its last character. -/
theorem seenAs_dropLast {c : Char} (h : Printable cs) (hfull : cs.length % 3 = 0)
    (hlast : cs.getLast? = some c) (hsign : ¬ (c ≠ '>' ∧ c ≠ '~' ∧ (c = '?' → urlSafe = true))) :
    SeenAs unicode urlSafe padded cs (Base64.sextets (cs.map Char.toNat)).dropLast
      [Base64.symbol urlSafe (c.toNat % 64)] := by
  obtain ⟨front, rfl⟩ := List.getLast?_eq_some_iff.mp hlast
  have hbytes : ∀ byte ∈ (front ++ [c]).map Char.toNat, byte < 256 :=
    fun byte hbyte => (h.bytes byte hbyte).trans (by decide)
  have hlength : (Base64.sextets ((front ++ [c]).map Char.toNat)).length =
      (4 * (front ++ [c]).length + 2) / 3 := by
    rw [Base64.length_sextets, List.length_map]
  have hcount : (front ++ [c]).length = front.length + 1 := by simp
  have hmod : ((front ++ [c]).map Char.toNat).length % 3 = 0 := by
    rw [List.length_map]
    exact hfull
  have hsplit : Base64.sextets ((front ++ [c]).map Char.toNat) =
      (Base64.sextets ((front ++ [c]).map Char.toNat)).dropLast ++ [c.toNat % 64] := by
    have hbits := Base64.getLast?_sextets hmod
    rw [List.getLast?_map, hlast] at hbits
    exact (List.dropLast_append_getLast? _ hbits).symm
  have hdropLength : (Base64.sextets ((front ++ [c]).map Char.toNat)).dropLast.length =
      (4 * (front ++ [c]).length + 2) / 3 - 1 := by
    rw [List.length_dropLast, hlength]
  have hdropped : (Base64.sextets ((front ++ [c]).map Char.toNat)).dropLast ≠ [] :=
    List.ne_nil_of_length_pos (by omega)
  have hfront : front ≠ [] := List.ne_nil_of_length_pos (by omega)
  have hlt : ∀ n ∈ (Base64.sextets ((front ++ [c]).map Char.toNat)).dropLast, n < 64 :=
    fun n hn => Base64.sextets_lt hbytes n (List.mem_of_mem_dropLast hn)
  have hc : 32 ≤ c.toNat ∧ c.toNat ≤ 126 := h c (by simp)
  have hlow : c.toNat % 64 < 64 := Nat.mod_lt _ (by omega)
  refine ⟨?_, hlt, ?_, ?_, ?_, ⟨front, ?_, ?_⟩, ?_⟩
  · have hpadding : (if padded then
        Base64.padding (Base64.sextets ((front ++ [c]).map Char.toNat)).length else []) = [] := by
      split
      · rw [hlength, Base64.padding, List.replicate_eq_nil_iff]
        omega
      · rfl
    rw [Base64.encode, hpadding, List.append_nil]
    nth_rewrite 1 [hsplit]
    rw [List.map_append]
    rfl
  · have hhead := List.head?_eq_some_head hdropped
    have hwhole := congrArg List.head? hsplit
    rw [List.head?_append, hhead, Option.some_or] at hwhole
    exact ⟨_, hhead, Base64.head?_sextets_lt h.bytes _ hwhole⟩
  · have hbefore := List.getLast?_eq_some_getLast hdropped
    have hword := Base64.getLast?_dropLast_sextets_lt h.bytes hmod _ hbefore
    refine ⟨_, hbefore, ?_⟩
    rw [isWordChar_symbol (by omega), decide_eq_true hword, Bool.true_or]
  · intro d hd
    obtain rfl := List.mem_singleton.mp hd
    refine ⟨inCandidateClass_symbol hlow, ?_⟩
    rw [Bool.eq_false_iff]
    exact fun hword => hsign ((isWordChar_lastSymbol hc).mp hword)
  · refine decodeBase64Candidate_symbols hlt ?_ ?_ hfront ?_
    · rw [hdropLength]
      omega
    · rw [Base64.bytesOf_dropLast hbytes hmod, ← List.map_dropLast, List.dropLast_concat]
    · exact fun d hd => h d (List.mem_append_left _ hd)
  · have hseparator : isSeparator c.toLower = true := by
      by_contra hkept
      refine hsign ⟨?_, ?_, ?_⟩ <;> rintro rfl <;> exact absurd rfl hkept
    have hfrontAscii : ∀ d ∈ front, isAscii d = true :=
      fun d hd => h.ascii d (List.mem_append_left _ hd)
    rw [compact_of_ascii h.ascii, compact_of_ascii hfrontAscii,
      List.map_append, List.filter_append, List.map_singleton,
      List.filter_cons_of_neg (by rw [hseparator]; decide), List.filter_nil, List.append_nil]
  · rw [hdropLength, LongEnough]
    constructor
    · intro hlong
      exact .inl (by omega)
    · rintro (hmore | ⟨-, hword⟩)
      · omega
      · exact absurd (hword c hlast) hsign

theorem exists_seenAs (unicode : UnicodeTables) (urlSafe padded : Bool) (h : Printable cs)
    (hne : cs ≠ []) : ∃ ns gap, SeenAs unicode urlSafe padded cs ns gap := by
  have hlast := List.getLast?_eq_some_getLast hne
  by_cases hend : cs.length % 3 = 0 ∧ ¬ (cs.getLast hne ≠ '>' ∧ cs.getLast hne ≠ '~' ∧
      (cs.getLast hne = '?' → urlSafe = true))
  · exact ⟨_, _, seenAs_dropLast h hend.1 hlast hend.2⟩
  · refine ⟨_, _, seenAs_sextets h hne fun hfull c hc => ?_⟩
    rw [hlast] at hc
    obtain rfl := Option.some.inj hc
    exact not_not.mp fun hsign => hend ⟨hfull, hsign⟩

end Encoding

section Phrases

/-- The words, each in any letter case, with any characters between them that are no letters or
digits. -/
inductive Spelled : List (List Char) → List Char → Prop
  | single {word cs : List Char} (hword : cs.map Char.toLower = word) : Spelled [word] cs
  | cons {word cs gap rest : List Char} {ws : List (List Char)} (hword : cs.map Char.toLower = word)
      (hgap : ∀ c ∈ gap, c.isAlphanum = false) (hrest : Spelled ws rest) :
      Spelled (word :: ws) (cs ++ gap ++ rest)

def phraseWords (phrase : String) : List (List Char) :=
  words isSeparator (phrase.toList.map Char.toLower)

/-- The text contains the phrase. -/
def Spells (phrase s : String) : Prop :=
  ∃ before mid after, s.toList = before ++ mid ++ after ∧ Spelled (phraseWords phrase) mid

variable {unicode : UnicodeTables} {ws : List (List Char)} {cs : List Char} {phrase s : String}

theorem isSeparator_toLower {c : Char} (h : isAscii c = true) :
    isSeparator c.toLower = !c.isAlphanum := by
  have hall : ∀ n < 128, isSeparator (Char.ofNat n).toLower = !(Char.ofNat n).isAlphanum := by
    decide
  have hchar := hall c.toNat (of_decide_eq_true h)
  rwa [Char.ofNat_toNat] at hchar

theorem filter_spelled (hascii : ∀ c ∈ cs, isAscii c = true)
    (hws : ∀ w ∈ ws, ∀ c ∈ w, isSeparator c = false) (h : Spelled ws cs) :
    (cs.map Char.toLower).filter (fun c => !isSeparator c) = ws.flatten := by
  induction h with
  | single hword =>
    subst hword
    rw [List.flatten_singleton, List.filter_eq_self]
    intro c hc
    rw [hws _ List.mem_cons_self c hc]
    rfl
  | @cons word written gap rest ws hword hgap hrest ih =>
    subst hword
    rw [List.forall_mem_append, List.forall_mem_append] at hascii
    rw [List.forall_mem_cons] at hws
    rw [List.map_append, List.map_append, List.filter_append, List.filter_append,
      ih hascii.2 hws.2, List.flatten_cons]
    congr 1
    have hdropped : ∀ c ∈ gap.map Char.toLower, ¬ (!isSeparator c) = true := by
      rw [List.forall_mem_map]
      intro c hc
      rw [isSeparator_toLower (hascii.1.2 c hc), hgap c hc]
      decide
    rw [List.filter_eq_nil_iff.mpr hdropped, List.append_nil, List.filter_eq_self]
    intro c hc
    rw [hws.1 c hc]
    rfl

/-- The words of a text are what is left of it without the separators. -/
theorem flatten_words {α : Type*} (separates : α → Bool) (xs : List α) :
    (words separates xs).flatten = xs.filter fun x => !separates x := by
  rw [words, List.flatten_filter_not_isEmpty]
  induction xs with
  | nil => rfl
  | cons x xs ih =>
    rw [List.splitOnP_cons_eq_if_modifyHead]
    by_cases hx : separates x = true
    · rw [if_pos hx, List.flatten_cons, List.nil_append, ih,
        List.filter_cons_of_neg (by simp [hx])]
    · obtain ⟨part, parts, hparts⟩ := List.exists_cons_of_ne_nil (List.splitOnP_ne_nil separates xs)
      rw [hparts] at ih ⊢
      rw [if_neg hx, List.modifyHead_cons, List.flatten_cons, List.cons_append,
        ← List.flatten_cons, ih, List.filter_cons_of_pos (by simpa using hx)]

theorem compact_within_of_spells (unicode : UnicodeTables)
    (hphrase : ∀ c ∈ phrase.toList, isAscii c = true)
    (hs : ∀ c ∈ s.toList, isAscii c = true) (h : Spells phrase s) :
    compactForPhraseMatch unicode phrase.toList <:+: compactForPhraseMatch unicode s.toList := by
  obtain ⟨before, mid, after, hsplit, hmid⟩ := h
  rw [hsplit] at hs ⊢
  have hmidAscii : ∀ c ∈ mid, isAscii c = true :=
    fun c hc => hs c (List.mem_append_left _ (List.mem_append_right _ hc))
  have hwords : compactForPhraseMatch unicode phrase.toList =
      compactForPhraseMatch unicode mid := by
    rw [compact_of_ascii hphrase, compact_of_ascii hmidAscii,
      filter_spelled hmidAscii (fun w hw => (mem_words hw).2) hmid, flatten_words]
  rw [hwords]
  exact compact_within hmidAscii

/-- The phrases of the rules are ASCII texts with letters. -/
theorem guardrail_phrases {rule : CopilotGuardrailReasonCode × List String}
    (hrule : rule ∈ guardrailRules) :
    ∀ phrase ∈ rule.2, (∀ c ∈ phrase.toList, isAscii c = true) ∧
      (phrase.toList.map Char.toLower).filter (fun c => !isSeparator c) ≠ [] := by
  have hall : ∀ rule ∈ guardrailRules, ∀ phrase ∈ rule.2, phrase.toList.all isAscii = true ∧
      (phrase.toList.map Char.toLower).filter (fun c => !isSeparator c) ≠ [] := by
    decide +kernel
  simp only [List.all_eq_true] at hall
  exact hall rule hrule

end Phrases

section Detection

variable {unicode : UnicodeTables} {urlSafe padded : Bool} {s : String}
  {rule : CopilotGuardrailReasonCode × List String}

/-- A text between spaces, as far as it can be read, is found in every text. -/
theorem SeenAs.mem_decodedBase64Candidates {cs : List Char} {ns : List ℕ} {gap : List Char}
    (hseen : SeenAs unicode urlSafe padded cs ns gap) (hlong : LongEnough urlSafe cs)
    (before after : List Char) :
    ∃ ds ∈ decodedBase64Candidates unicode (before ++ ' ' ::
        (Base64.encode urlSafe padded (cs.map Char.toNat) ++ ' ' :: after)),
      compactForPhraseMatch unicode ds = compactForPhraseMatch unicode cs := by
  obtain ⟨ds, hds, hcompact⟩ := hseen.decoded
  refine ⟨ds, List.mem_filterMap.mpr ⟨_, ?_, hds⟩, hcompact⟩
  refine findCandidates_append_space before (Nat.zero_le _) ?_
  obtain ⟨n, hhead, hn⟩ := hseen.head
  obtain ⟨m, hlast, hm⟩ := hseen.last
  rw [hseen.encoded, List.append_assoc]
  refine mem_findCandidates (c := Base64.symbol urlSafe n) (d := Base64.symbol urlSafe m)
    ?_ ?_ ?_ hm ?_ (fun c hc => (hseen.gap c hc).2) ?_
  · rw [List.head?_map, hhead]
    rfl
  · rw [List.getLast?_map, hlast]
    rfl
  · rw [isWordChar_symbol (by omega), decide_eq_true hn, Bool.true_or]
  · rw [List.forall_mem_append, List.forall_mem_map]
    exact ⟨fun k hk => inCandidateClass_symbol (hseen.lt k hk), fun c hc => (hseen.gap c hc).1⟩
  · rw [List.length_map]
    exact hseen.length.mpr hlong

/-- A shorter encoding is found in no text that has nothing else in it. -/
theorem SeenAs.findCandidates_eq_nil {cs : List Char} {ns : List ℕ} {gap : List Char}
    (hseen : SeenAs unicode urlSafe padded cs ns gap) (hshort : ¬ LongEnough urlSafe cs) :
    findCandidates unicode none 0
      (' ' :: (Base64.encode urlSafe padded (cs.map Char.toNat) ++ [' '])) = [] := by
  have hlength : ns.length < 12 := by
    rw [← not_le]
    exact fun hlong => hshort (hseen.length.mp hlong)
  have hnone : candidateAt unicode none
      (' ' :: (Base64.encode urlSafe padded (cs.map Char.toNat) ++ [' '])) = none := by
    rw [candidateAt, List.takeWhile_cons_of_neg (by decide)]
    split <;> rfl
  rw [findCandidates, hnone, hseen.encoded, List.append_assoc]
  refine findCandidates_of_short (by rwa [List.length_map]) ?_
  rw [List.forall_mem_append]
  refine ⟨fun c hc => (hseen.gap c hc).2, ?_⟩
  intro c hc
  obtain rfl := List.mem_singleton.mp hc
  rfl

/-- A rule is detected in every text with the phrase, and in every text with its encoding between
two spaces. -/
def Detected (unicode : UnicodeTables) (phrases : List String) (s encoded : String) : Prop :=
  (∀ before after : String, containsPhrase unicode (before ++ s ++ after) phrases = true) ∧
    ∀ before after : String,
      containsPhrase unicode (before ++ " " ++ encoded ++ " " ++ after) phrases = true

theorem ascii_encode (unicode : UnicodeTables) (urlSafe padded : Bool) (h : Printable s.toList)
    (hne : s.toList ≠ []) :
    ∀ c ∈ (base64Text urlSafe padded s).toList, isAscii c = true := by
  obtain ⟨ns, gap, hseen⟩ :=
    exists_seenAs unicode urlSafe padded h hne
  have hclass : ∀ c, inCandidateClass c = true → isAscii c = true := by
    intro c hc
    rw [inCandidateClass, Bool.or_eq_true, decide_eq_true_eq] at hc
    rcases hc with hc | hc
    · rw [isAscii, decide_eq_true_eq]
      change ((decide (65 ≤ c.val ∧ c.val ≤ 90) || c.isLower) || c.isDigit) = true at hc
      simp only [Bool.or_eq_true, decide_eq_true_eq] at hc
      rcases hc with (hupper | hlower) | hdigit
      · have hupper : 65 ≤ c.toNat ∧ c.toNat ≤ 90 := hupper
        omega
      · have := toNat_of_isLower hlower
        omega
      · have := toNat_of_isDigit hdigit
        omega
    · simp only [List.mem_cons, List.not_mem_nil, or_false] at hc
      rcases hc with rfl | rfl | rfl | rfl | rfl <;> rfl
  intro c hc
  rw [base64Text, String.toList_ofList, hseen.encoded, List.mem_append] at hc
  refine hclass c ?_
  rcases hc with hc | hc
  · obtain ⟨n, hn, rfl⟩ := List.mem_map.mp hc
    exact inCandidateClass_symbol (hseen.lt n hn)
  · exact (hseen.gap c hc).1

/-- A phrase is detected wherever it stands. Its encoding is detected if and only if it is long
enough, or has a phrase in it as it stands. -/
theorem forbidden_phrase_detected_iff (unicode : UnicodeTables) (urlSafe padded : Bool)
    (hrule : rule ∈ guardrailRules) (hprintable : Printable s.toList)
    (hspells : ∃ phrase ∈ rule.2, Spells phrase s) :
    Detected unicode rule.2 s (base64Text urlSafe padded s) ↔
      LongEnough urlSafe s.toList ∨
        ∃ phrase ∈ rule.2, compactForPhraseMatch unicode phrase.toList <:+:
          compactForPhraseMatch unicode (base64Text urlSafe padded s).toList := by
  have hphrases : ∀ phrase ∈ rule.2, compactForPhraseMatch unicode phrase.toList ≠ [] := by
    intro phrase hphrase
    rw [compact_of_ascii (guardrail_phrases hrule phrase hphrase).1]
    exact (guardrail_phrases hrule phrase hphrase).2
  obtain ⟨phrase, hphrase, hspells⟩ := hspells
  have hwithin := compact_within_of_spells unicode
    (guardrail_phrases hrule phrase hphrase).1 hprintable.ascii hspells
  have hne : s.toList ≠ [] := by
    intro hnil
    rw [hnil] at hwithin
    exact hphrases phrase hphrase (List.infix_nil.mp hwithin)
  obtain ⟨ns, gap, hseen⟩ :=
    exists_seenAs unicode urlSafe padded hprintable hne
  constructor
  · rintro ⟨-, hencoded⟩
    by_cases hlong : LongEnough urlSafe s.toList
    · exact .inl hlong
    · have hdetected := hencoded "" ""
      have htext : ("" ++ " " ++ base64Text urlSafe padded s ++ " " ++ "").toList =
          ' ' :: ((base64Text urlSafe padded s).toList ++ [' ']) := by simp
      have hnone := hseen.findCandidates_eq_nil hlong
      obtain ⟨other, hother, hfound⟩ := infix_of_containsPhrase
        (by rw [htext, base64Text, String.toList_ofList]; exact hnone) hdetected
      refine .inr ⟨other, hother, ?_⟩
      have hascii := ascii_encode unicode urlSafe padded hprintable hne
      have hspaced : ∀ c ∈ ' ' :: ((base64Text urlSafe padded s).toList ++ [' ']),
          isAscii c = true := by
        rw [List.forall_mem_cons, List.forall_mem_append]
        exact ⟨rfl, hascii, fun c hc => List.mem_singleton.mp hc ▸ rfl⟩
      rw [htext, compact_of_ascii hspaced, List.map_cons, List.map_append,
        List.filter_cons_of_neg (by decide), List.filter_append, List.map_singleton,
        List.filter_cons_of_neg (by decide), List.filter_nil, List.append_nil,
        ← compact_of_ascii hascii] at hfound
      exact hfound
  · intro h
    refine ⟨fun before after => ?_, fun before after => ?_⟩
    · refine containsPhrase_of_decoded _ hphrase (hphrases phrase hphrase) (.inl rfl) ?_
      rw [String.toList_append, String.toList_append]
      exact hwithin.trans (compact_within hprintable.ascii)
    · have htext : (before ++ " " ++ base64Text urlSafe padded s ++ " " ++ after).toList =
          before.toList ++
            ' ' :: ((base64Text urlSafe padded s).toList ++ ' ' :: after.toList) := by
        simp
      rcases h with hlong | ⟨other, hother, hplain⟩
      · obtain ⟨ds, hds, hcompact⟩ :=
          hseen.mem_decodedBase64Candidates hlong before.toList after.toList
        refine containsPhrase_of_decoded ds hphrase (hphrases phrase hphrase)
          (.inr ?_) (hcompact ▸ hwithin)
        rw [htext, base64Text, String.toList_ofList]
        exact hds
      · refine containsPhrase_of_decoded _ hother (hphrases other hother) (.inl rfl)
          (hplain.trans ?_)
        rw [String.toList_append, String.toList_append, String.toList_append, String.toList_append,
          List.append_assoc]
        exact compact_within (ascii_encode unicode urlSafe padded hprintable hne)

end Detection

namespace Sample

/-- No character that is not ASCII is in the samples. -/
def asciiTables : UnicodeTables where
  lower _ c _ := [c]
  isWord _ := false

end Sample

open Sample in
/-- The encoding of seven characters is passed over. -/
theorem encoded_api_key_undetected :
    Printable "api key".toList ∧ Spells "api key" "api key" ∧
      ¬ Detected asciiTables sensitiveOutputPhrases "api key"
        (base64Text false true "api key") := by
  refine ⟨by decide, ⟨[], "api key".toList, [], rfl, ?_⟩, ?_⟩
  · have hwords : phraseWords "api key" = ["api".toList, "key".toList] := by decide +kernel
    rw [hwords]
    have hgap : ∀ c ∈ [' '], c.isAlphanum = false := by
      intro c hc
      rw [List.mem_singleton.mp hc]
      rfl
    exact @Spelled.cons _ "api".toList [' '] _ _ rfl hgap (.single rfl)
  · rintro ⟨-, hencoded⟩
    exact absurd (hencoded "" "") (by decide +kernel)

open Sample in
/-- The theorem at a phrase of nine letters. -/
theorem forbidden_phrase_detected_iff_jailbreak :
    Detected asciiTables promptInjectionPhrases "Jailbreak" (base64Text true false "Jailbreak") ↔
      LongEnough true "Jailbreak".toList ∨
        ∃ phrase ∈ promptInjectionPhrases,
          compactForPhraseMatch asciiTables phrase.toList <:+:
            compactForPhraseMatch asciiTables (base64Text true false "Jailbreak").toList :=
  @forbidden_phrase_detected_iff _ (.promptInjectionRejected, promptInjectionPhrases)
    asciiTables true false (by decide) (by decide)
    ⟨"jailbreak", by decide, [], "Jailbreak".toList, [], rfl, by
      have hwords : phraseWords "jailbreak" = ["jailbreak".toList] := by decide +kernel
      rw [hwords]
      exact .single (by decide)⟩

end LotusAdvise.AdvisoryCopilot
