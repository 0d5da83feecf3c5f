import Mathlib.Data.List.Basic
import Mathlib.Data.Nat.Notation

/-! # Base64

Three bytes are written as four symbols of six bits each. A last group of one or two bytes has two
or three symbols, which the padding fills up to four. The decoder drops bits that do not fill a
byte, so that a text without its last symbol is read up to its last full byte.
-/

namespace LotusAdvise.Base64

/-- The groups of six bits of a list of bytes. -/
def sextets : List ℕ → List ℕ
  | [] => []
  | [a] => [a / 4, a % 4 * 16]
  | [a, b] => [a / 4, a % 4 * 16 + b / 16, b % 16 * 4]
  | a :: b :: c :: bytes =>
    [a / 4, a % 4 * 16 + b / 16, b % 16 * 4 + c / 64, c % 64] ++ sextets bytes

def bytesOf : List ℕ → List ℕ
  | p :: q :: r :: s :: ns => [p * 4 + q / 16, q % 16 * 16 + r / 4, r % 4 * 64 + s] ++ bytesOf ns
  | [p, q, r] => [p * 4 + q / 16, q % 16 * 16 + r / 4]
  | [p, q] => [p * 4 + q / 16]
  | _ => []

/-- The standard alphabet, or the URL-safe one. -/
def symbol (urlSafe : Bool) (n : ℕ) : Char :=
  if n < 26 then Char.ofNat (65 + n)
  else if n < 52 then Char.ofNat (71 + n)
  else if n < 62 then Char.ofNat (n - 4)
  else if n = 62 then (if urlSafe then '-' else '+')
  else (if urlSafe then '_' else '/')

/-- The standard symbol for one of either alphabet. -/
def standardSymbol (c : Char) : Char := if c = '-' then '+' else if c = '_' then '/' else c

/-- The value of a symbol of the standard alphabet. -/
def value (c : Char) : Option ℕ :=
  if c.isUpper then some (c.toNat - 65)
  else if c.isLower then some (c.toNat - 71)
  else if c.isDigit then some (c.toNat + 4)
  else if c = '+' then some 62
  else if c = '/' then some 63
  else none

/-- What fills the last group of so many symbols. -/
def padding (length : ℕ) : List Char := List.replicate ((4 - length % 4) % 4) '='

def encode (urlSafe padded : Bool) (bytes : List ℕ) : List Char :=
  (sextets bytes).map (symbol urlSafe) ++ if padded then padding (sextets bytes).length else []

/-- The decoder in strict mode, on the symbols and what follows them. After full groups, any padding
is skipped. -/
def accepts (symbols rest : List Char) : Bool :=
  rest.all (· = '=') &&
    match symbols.length % 4 with
    | 0 => symbols ≠ [] || rest = []
    | 1 => false
    | 2 => rest.length = 2
    | _ => rest.length = 1

/-- `base64.b64decode(text, validate=True)`. -/
def decode (text : List Char) : Option (List ℕ) :=
  let symbols := text.takeWhile fun c => (value c).isSome
  if accepts symbols (text.drop symbols.length) then some (bytesOf (symbols.filterMap value))
  else none

/-- The decoder that is not strict: it skips what is no symbol, and stops where the padding fills a
group. The symbols read so far come first, then the padding seen since the last one. -/
def scan : List ℕ → ℕ → List Char → Option (List ℕ)
  | ns, _, [] => if ns.length % 4 = 0 then some (bytesOf ns) else none
  | ns, pads, c :: cs =>
    if c = '=' then
      if 2 ≤ ns.length % 4 then
        if 4 ≤ ns.length % 4 + (pads + 1) then some (bytesOf ns) else scan ns (pads + 1) cs
      else scan ns pads cs
    else
      match value c with
      | none => scan ns pads cs
      | some n => scan (ns ++ [n]) 0 cs

/-- `base64.b64decode(text)`. -/
def decodeLenient (text : List Char) : Option (List ℕ) := scan [] 0 text

variable {urlSafe padded : Bool} {bytes ns : List ℕ} {n : ℕ}

theorem value_symbol (h : n < 64) : value (symbol false n) = some n := by
  have hall : ∀ n < 64, value (symbol false n) = some n := by decide
  exact hall n h

@[simp] theorem length_sextets : (sextets bytes).length = (4 * bytes.length + 2) / 3 := by
  induction bytes using sextets.induct with
  | case1 => rfl
  | case2 a => simp [sextets]
  | case3 a b => simp [sextets]
  | case4 a b c bytes ih =>
    simp only [sextets, List.length_append, List.length_cons, List.length_nil, ih]
    omega

theorem sextets_lt (h : ∀ byte ∈ bytes, byte < 256) : ∀ n ∈ sextets bytes, n < 64 := by
  induction bytes using sextets.induct with
  | case1 => simp [sextets]
  | case2 a =>
    have ha := h a List.mem_cons_self
    simp only [sextets, List.forall_mem_cons]
    exact ⟨by omega, by omega, by simp⟩
  | case3 a b =>
    simp only [List.forall_mem_cons] at h
    obtain ⟨ha, hb, -⟩ := h
    simp only [sextets, List.forall_mem_cons]
    exact ⟨by omega, by omega, by omega, by simp⟩
  | case4 a b c bytes ih =>
    simp only [List.forall_mem_cons] at h
    obtain ⟨ha, hb, hc, hbytes⟩ := h
    simp only [sextets, List.forall_mem_append, List.forall_mem_cons]
    exact ⟨⟨by omega, by omega, by omega, by omega, by simp⟩, ih hbytes⟩

/-- Decoding undoes encoding. -/
theorem bytesOf_sextets (h : ∀ byte ∈ bytes, byte < 256) : bytesOf (sextets bytes) = bytes := by
  induction bytes using sextets.induct with
  | case1 => rfl
  | case2 a =>
    simp only [sextets, bytesOf, List.cons.injEq, and_true]
    omega
  | case3 a b =>
    simp only [List.forall_mem_cons] at h
    obtain ⟨ha, hb, -⟩ := h
    simp only [sextets, bytesOf, List.cons.injEq, and_true]
    omega
  | case4 a b c bytes ih =>
    simp only [List.forall_mem_cons] at h
    obtain ⟨ha, hb, hc, hbytes⟩ := h
    have hgroup : bytesOf (sextets (a :: b :: c :: bytes)) =
        [a / 4 * 4 + (a % 4 * 16 + b / 16) / 16,
          (a % 4 * 16 + b / 16) % 16 * 16 + (b % 16 * 4 + c / 64) / 4,
          (b % 16 * 4 + c / 64) % 4 * 64 + c % 64] ++ bytesOf (sextets bytes) := rfl
    rw [hgroup, ih hbytes]
    simp only [List.cons_append, List.nil_append, List.cons.injEq, and_true]
    omega

/-- Of full groups without their last symbol, all bytes but the last one are read. -/
theorem bytesOf_dropLast (h : ∀ byte ∈ bytes, byte < 256) (hlen : bytes.length % 3 = 0) :
    bytesOf (sextets bytes).dropLast = bytes.dropLast := by
  induction bytes using sextets.induct with
  | case1 => rfl
  | case2 a => simp at hlen
  | case3 a b => simp at hlen
  | case4 a b c bytes ih =>
    simp only [List.forall_mem_cons] at h
    obtain ⟨ha, hb, hc, hbytes⟩ := h
    rcases bytes with _ | ⟨d, bytes⟩
    · simp only [sextets, bytesOf, List.append_nil, List.dropLast_cons_cons,
        List.dropLast_singleton, List.cons.injEq, and_true]
      omega
    · have hrest : sextets (d :: bytes) ≠ [] := by
        intro hnil
        have := congrArg List.length hnil
        rw [length_sextets, List.length_cons, List.length_nil] at this
        omega
      rw [sextets, List.dropLast_append_of_ne_nil hrest]
      have hgroup : bytesOf ([a / 4, a % 4 * 16 + b / 16, b % 16 * 4 + c / 64, c % 64] ++
            (sextets (d :: bytes)).dropLast) =
          [a / 4 * 4 + (a % 4 * 16 + b / 16) / 16,
            (a % 4 * 16 + b / 16) % 16 * 16 + (b % 16 * 4 + c / 64) / 4,
            (b % 16 * 4 + c / 64) % 4 * 64 + c % 64] ++
              bytesOf (sextets (d :: bytes)).dropLast := rfl
      have hbyteCount : (d :: bytes).length % 3 = 0 := by
        simp only [List.length_cons] at hlen ⊢
        omega
      rw [hgroup, ih hbytes hbyteCount]
      simp only [List.cons_append, List.nil_append, List.dropLast_cons_cons, List.cons.injEq,
        and_true]
      omega

theorem takeWhile_value {symbols rest : List Char} (h : ∀ c ∈ symbols, (value c).isSome)
    (hrest : ∀ c ∈ rest, c = '=') :
    (symbols ++ rest).takeWhile (fun c => (value c).isSome) = symbols := by
  rw [List.takeWhile_append_of_pos h]
  cases rest with
  | nil => simp
  | cons c rest =>
    obtain rfl := hrest c List.mem_cons_self
    rw [List.takeWhile_cons_of_neg (by decide), List.append_nil]

theorem filterMap_symbol (h : ∀ n ∈ ns, n < 64) :
    (ns.map (symbol false)).filterMap value = ns := by
  induction ns with
  | nil => rfl
  | cons n ns ih =>
    rw [List.forall_mem_cons] at h
    rw [List.map_cons, List.filterMap_cons_some (value_symbol h.1), ih h.2]

/-- Symbols with their padding are decoded, unless a group has one symbol. -/
theorem decode_symbols (h : ∀ n ∈ ns, n < 64) (hlen : ns.length % 4 ≠ 1) :
    decode (ns.map (symbol false) ++ padding ns.length) = some (bytesOf ns) := by
  have hsymbols : ∀ c ∈ ns.map (symbol false), (value c).isSome := by
    rw [List.forall_mem_map]
    intro n hn
    rw [value_symbol (h n hn)]
    rfl
  have hpadding : ∀ c ∈ padding ns.length, c = '=' := fun c hc => List.eq_of_mem_replicate hc
  have haccepts : accepts (ns.map (symbol false)) (padding ns.length) = true := by
    have hall : (padding ns.length).all (· = '=') = true := by
      rw [List.all_eq_true]
      exact fun c hc => decide_eq_true (hpadding c hc)
    have hcount : (padding ns.length).length = (4 - ns.length % 4) % 4 := List.length_replicate
    have hlt : ns.length % 4 < 4 := Nat.mod_lt _ (by omega)
    rw [accepts, hall, Bool.true_and, List.length_map]
    split
    · next hzero => simp [padding, hzero]
    · next hone => exact absurd hone hlen
    · next htwo => simp [hcount, htwo]
    · next hzero hone htwo =>
      have hthree : ns.length % 4 = 3 := by
        rcases hrem : ns.length % 4 with _ | _ | _ | _ | n
        · exact absurd hrem hzero
        · exact absurd hrem hone
        · exact absurd hrem htwo
        · rfl
        · omega
      simp [hcount, hthree]
  unfold decode
  simp only [takeWhile_value hsymbols hpadding]
  rw [List.drop_left, if_pos haccepts, filterMap_symbol h]

theorem map_standardSymbol (urlSafe : Bool) (h : ∀ n ∈ ns, n < 64) :
    (ns.map (symbol urlSafe)).map standardSymbol = ns.map (symbol false) := by
  have hall : ∀ urlSafe, ∀ n < 64, standardSymbol (symbol urlSafe n) = symbol false n := by decide
  rw [List.map_map]
  exact List.map_congr_left fun n hn => hall urlSafe n (h n hn)

theorem symbol_ne_pad (h : n < 64) : symbol urlSafe n ≠ '=' := by
  have hall : ∀ urlSafe, ∀ n < 64, symbol urlSafe n ≠ '=' := by decide
  exact hall urlSafe n h

theorem scan_symbols (h : ∀ n ∈ ns, n < 64) (start : List ℕ) (rest : List Char) :
    scan start 0 (ns.map (symbol false) ++ rest) = scan (start ++ ns) 0 rest := by
  induction ns generalizing start with
  | nil => rw [List.map_nil, List.nil_append, List.append_nil]
  | cons n ns ih =>
    rw [List.forall_mem_cons] at h
    rw [List.map_cons, List.cons_append, scan, if_neg (symbol_ne_pad h.1), value_symbol h.1]
    dsimp only
    rw [ih h.2, List.append_assoc, List.singleton_append]

theorem decodeLenient_symbols (h : ∀ n ∈ ns, n < 64) (hlen : ns.length % 4 ≠ 1) :
    decodeLenient (ns.map (symbol false) ++ padding ns.length) = some (bytesOf ns) := by
  have hlt : ns.length % 4 < 4 := Nat.mod_lt _ (by omega)
  rw [decodeLenient, scan_symbols h, List.nil_append, padding]
  rcases hrem : ns.length % 4 with _ | _ | _ | _ | _
  · simp [scan, hrem]
  · exact absurd hrem hlen
  · simp [List.replicate, scan, hrem]
  · simp [scan, hrem]
  · omega

section Ascii

/-- A full last group ends in the last six bits of the last byte. -/
theorem getLast?_sextets (hlen : bytes.length % 3 = 0) :
    (sextets bytes).getLast? = bytes.getLast?.map (· % 64) := by
  induction bytes using sextets.induct with
  | case1 => rfl
  | case2 a => simp at hlen
  | case3 a b => simp at hlen
  | case4 a b c bytes ih =>
    have hrest : bytes.length % 3 = 0 := by
      simp only [List.length_cons] at hlen
      omega
    rw [sextets, List.getLast?_append, ih hrest]
    cases bytes with
    | nil => rfl
    | cons d bytes => simp [List.getLast?_eq_some_getLast]

/-- Another last group ends in bits that are filled up with zeros. -/
theorem getLast?_sextets_lt (h : ∀ byte ∈ bytes, byte < 256) (hlen : bytes.length % 3 ≠ 0) :
    ∀ n ∈ (sextets bytes).getLast?, n < 62 := by
  induction bytes using sextets.induct with
  | case1 => simp at hlen
  | case2 a =>
    simp only [sextets, List.getLast?_cons_cons, List.getLast?_singleton, Option.mem_def,
      Option.some.injEq, forall_eq']
    omega
  | case3 a b =>
    simp only [sextets, List.getLast?_cons_cons, List.getLast?_singleton, Option.mem_def,
      Option.some.injEq, forall_eq']
    omega
  | case4 a b c bytes ih =>
    simp only [List.forall_mem_cons] at h
    have hrest : bytes.length % 3 ≠ 0 := by
      simp only [List.length_cons] at hlen
      omega
    have hne : sextets bytes ≠ [] := by
      intro hnil
      have := congrArg List.length hnil
      rw [length_sextets, List.length_nil] at this
      omega
    rw [sextets, List.getLast?_append_of_ne_nil _ hne]
    exact ih h.2.2.2 hrest

/-- Where bytes have seven bits, the symbol before the last one of a full group is none of the two
last ones. -/
theorem getLast?_dropLast_sextets_lt (h : ∀ byte ∈ bytes, byte < 128)
    (hlen : bytes.length % 3 = 0) : ∀ n ∈ (sextets bytes).dropLast.getLast?, n < 62 := by
  induction bytes using sextets.induct with
  | case1 => simp [sextets]
  | case2 a => simp at hlen
  | case3 a b => simp at hlen
  | case4 a b c bytes ih =>
    simp only [List.forall_mem_cons] at h
    obtain ⟨ha, hb, hc, hbytes⟩ := h
    have hrest : bytes.length % 3 = 0 := by
      simp only [List.length_cons] at hlen
      omega
    rcases bytes with _ | ⟨d, bytes⟩
    · simp only [sextets, List.append_nil, List.dropLast_cons_cons, List.dropLast_singleton,
        List.getLast?_cons_cons, List.getLast?_singleton, Option.mem_def, Option.some.injEq,
        forall_eq']
      omega
    · have hlong : 4 ≤ (sextets (d :: bytes)).length := by
        rw [length_sextets]
        simp only [List.length_cons] at hrest ⊢
        omega
      have hne : sextets (d :: bytes) ≠ [] := List.ne_nil_of_length_pos (by omega)
      have hdropped : (sextets (d :: bytes)).dropLast ≠ [] := by
        refine List.ne_nil_of_length_pos ?_
        rw [List.length_dropLast]
        omega
      rw [sextets, List.dropLast_append_of_ne_nil hne, List.getLast?_append_of_ne_nil _ hdropped]
      exact ih hbytes hrest

theorem head?_sextets_lt (h : ∀ byte ∈ bytes, byte < 128) :
    ∀ n ∈ (sextets bytes).head?, n < 62 := by
  cases bytes using sextets.fun_cases with
  | case1 => simp [sextets]
  | case2 a =>
    have ha := h a List.mem_cons_self
    rintro n ⟨⟩
    omega
  | case3 a b =>
    have ha := h a List.mem_cons_self
    rintro n ⟨⟩
    omega
  | case4 a b c bytes =>
    have ha := h a List.mem_cons_self
    rintro n ⟨⟩
    omega

end Ascii

end LotusAdvise.Base64
