import Mathlib.Data.List.Basic
import Mathlib.Data.Nat.Notation

/-! # Texts in JSON

A text is written between quotation marks as `json.dumps` writes it: what is not printable ASCII is
escaped by its UTF-16 units. Reading undoes writing. Of the objects, only those of two texts are
read here, in the compact form in which they are written.
-/

namespace LotusAdvise.JsonStrings

section Writing

def hexDigit (n : ℕ) : Char := if n < 10 then Char.ofNat (48 + n) else Char.ofNat (87 + n)

/-- `\uXXXX`. -/
def unicodeEscape (unit : ℕ) : List Char :=
  ['\\', 'u', hexDigit (unit / 4096), hexDigit (unit / 256 % 16), hexDigit (unit / 16 % 16),
    hexDigit (unit % 16)]

/-- The escapes of one letter, with the character that each stands for. -/
def letterEscapes : List (Char × ℕ) :=
  [('"', 34), ('\\', 92), ('/', 47), ('b', 8), ('f', 12), ('n', 10), ('r', 13), ('t', 9)]

/-- The units that a character has in UTF-16. -/
def utf16Units (c : Char) : List ℕ :=
  if c.toNat < 0x10000 then [c.toNat]
  else [0xD800 + (c.toNat - 0x10000) / 1024, 0xDC00 + (c.toNat - 0x10000) % 1024]

def escapeChar (c : Char) : List Char :=
  if c = '"' then ['\\', '"']
  else if c = '\\' then ['\\', '\\']
  else if c = '\n' then ['\\', 'n']
  else if c = '\r' then ['\\', 'r']
  else if c = '\t' then ['\\', 't']
  else if c.toNat = 12 then ['\\', 'f']
  else if c.toNat = 8 then ['\\', 'b']
  else if 32 ≤ c.toNat ∧ c.toNat ≤ 126 then [c]
  else (utf16Units c).flatMap unicodeEscape

def writeString (text : String) : List Char := '"' :: (text.toList.flatMap escapeChar ++ ['"'])

/-- `json.dumps` of an object of two texts, with the separators `,` and `:`. -/
def writeTextPair (first second : String × String) : List Char :=
  '{' :: (writeString first.1 ++ ':' :: (writeString first.2 ++ ',' ::
    (writeString second.1 ++ ':' :: (writeString second.2 ++ ['}']))))

end Writing

section Reading

def hexValue (c : Char) : Option ℕ :=
  if c.isDigit then some (c.toNat - 48)
  else if 97 ≤ c.toNat ∧ c.toNat ≤ 102 then some (c.toNat - 87)
  else if 65 ≤ c.toNat ∧ c.toNat ≤ 70 then some (c.toNat - 55)
  else none

def readHex (digits : List Char) : Option ℕ :=
  (digits.mapM hexValue).map fun values => values.foldl (fun n value => n * 16 + value) 0

/-- Where the reader of a text stands: behind a backslash, or behind some digits of an escape. -/
inductive ReadState where
  | plain
  | escape
  | hex (digits : List Char)

def pushUnits (units : List ℕ) (read : Option (List ℕ × List Char)) :
    Option (List ℕ × List Char) :=
  read.map fun (later, rest) => (units ++ later, rest)

/-- The units of a text up to its quotation mark, and what follows. -/
def readUnits : ReadState → List Char → Option (List ℕ × List Char)
  | _, [] => none
  | .plain, c :: cs =>
    if c = '"' then some ([], cs)
    else if c = '\\' then readUnits .escape cs
    else if c.toNat < 32 then none
    else pushUnits [c.toNat] (readUnits .plain cs)
  | .escape, c :: cs =>
    if c = 'u' then readUnits (.hex []) cs
    else (letterEscapes.lookup c).bind fun unit => pushUnits [unit] (readUnits .plain cs)
  | .hex digits, c :: cs =>
    if digits.length = 3 then
      (readHex (digits ++ [c])).bind fun unit => pushUnits [unit] (readUnits .plain cs)
    else readUnits (.hex (digits ++ [c])) cs

/-- The characters of UTF-16 units. A surrogate that stands alone is no character. -/
def joinSurrogates : List ℕ → Option (List Char)
  | [] => some []
  | [n] => if 0xD800 ≤ n ∧ n ≤ 0xDFFF then none else some [Char.ofNat n]
  | n :: m :: ns =>
    if 0xD800 ≤ n ∧ n ≤ 0xDBFF ∧ 0xDC00 ≤ m ∧ m ≤ 0xDFFF then
      (joinSurrogates ns).map
        (Char.ofNat (0x10000 + (n - 0xD800) * 1024 + (m - 0xDC00)) :: ·)
    else if 0xD800 ≤ n ∧ n ≤ 0xDFFF then none
    else (joinSurrogates (m :: ns)).map (Char.ofNat n :: ·)

def readString (cs : List Char) : Option (String × List Char) := do
  let cs ← cs.dropPrefix? ['"']
  let (units, rest) ← readUnits .plain cs
  let text ← joinSurrogates units
  return (String.ofList text, rest)

def readTextField (cs : List Char) : Option ((String × String) × List Char) := do
  let (key, cs) ← readString cs
  let cs ← cs.dropPrefix? [':']
  let (value, cs) ← readString cs
  return ((key, value), cs)

def readTextPair (cs : List Char) : Option ((String × String) × (String × String)) := do
  let cs ← cs.dropPrefix? ['{']
  let (first, cs) ← readTextField cs
  let cs ← cs.dropPrefix? [',']
  let (second, cs) ← readTextField cs
  let cs ← cs.dropPrefix? ['}']
  if cs = [] then return (first, second) else none

end Reading

section RoundTrip

variable {c : Char} {unit n : ℕ} {rest : List Char}

theorem hexValue_hexDigit (h : n < 16) : hexValue (hexDigit n) = some n := by
  have hall : ∀ n < 16, hexValue (hexDigit n) = some n := by decide
  exact hall n h

theorem readHex_unicodeEscape (h : unit < 0x10000) :
    readHex [hexDigit (unit / 4096), hexDigit (unit / 256 % 16), hexDigit (unit / 16 % 16),
      hexDigit (unit % 16)] = some unit := by
  have hfirst : unit / 4096 < 16 := by omega
  have hmod : ∀ n, n % 16 < 16 := fun n => Nat.mod_lt n (by omega)
  simp only [readHex, List.mapM_cons, List.mapM_nil, hexValue_hexDigit hfirst,
    hexValue_hexDigit (hmod _), Option.pure_def, Option.bind_eq_bind, Option.bind_some,
    Option.map_some, List.foldl_cons, List.foldl_nil, Option.some.injEq]
  omega

theorem pushUnits_append (units later : List ℕ) (read : Option (List ℕ × List Char)) :
    pushUnits (units ++ later) read = pushUnits units (pushUnits later read) := by
  cases read with
  | none => rfl
  | some read => exact congrArg (fun units => some (units, read.2)) (List.append_assoc ..)

theorem readUnits_unicodeEscape (h : unit < 0x10000) :
    readUnits .plain (unicodeEscape unit ++ rest) = pushUnits [unit] (readUnits .plain rest) := by
  have hread := readHex_unicodeEscape h
  simp only [unicodeEscape, List.cons_append, List.nil_append]
  simp [readUnits, hread]

theorem readUnits_letter {letter : Char} (h : letterEscapes.lookup letter = some unit)
    (hu : letter ≠ 'u') :
    readUnits .plain ('\\' :: letter :: rest) = pushUnits [unit] (readUnits .plain rest) := by
  rw [readUnits, if_neg (by decide), if_pos rfl, readUnits, if_neg hu, h, Option.bind_some]

theorem toNat_ranges (c : Char) :
    c.toNat < 0xD800 ∨ 0xDFFF < c.toNat ∧ c.toNat < 0x110000 := c.valid

theorem utf16Units_of_lt (h : c.toNat < 0x10000) : utf16Units c = [c.toNat] := if_pos h

theorem utf16Units_lt : ∀ unit ∈ utf16Units c, unit < 0x10000 := by
  have hrange := toNat_ranges c
  unfold utf16Units
  split
  · next h => simpa using h
  · simp only [List.forall_mem_cons]
    exact ⟨by omega, by omega, by simp⟩

theorem readUnits_unicodeEscapes {units : List ℕ} (h : ∀ unit ∈ units, unit < 0x10000) :
    readUnits .plain (units.flatMap unicodeEscape ++ rest) =
      pushUnits units (readUnits .plain rest) := by
  induction units with
  | nil =>
    rw [List.flatMap_nil, List.nil_append, pushUnits]
    exact (Option.map_id' (x := readUnits .plain rest)).symm
  | cons unit units ih =>
    rw [List.forall_mem_cons] at h
    rw [List.flatMap_cons, List.append_assoc, readUnits_unicodeEscape h.1, ih h.2,
      ← pushUnits_append, List.singleton_append]

/-- A written character is read as its units. -/
theorem readUnits_escapeChar :
    readUnits .plain (escapeChar c ++ rest) =
      pushUnits (utf16Units c) (readUnits .plain rest) := by
  have hletter : ∀ letter : Char, letterEscapes.lookup letter = some c.toNat → letter ≠ 'u' →
      c.toNat < 0x10000 → readUnits .plain ('\\' :: letter :: rest) =
        pushUnits (utf16Units c) (readUnits .plain rest) := by
    intro letter hlookup hu hlt
    rw [readUnits_letter hlookup hu, utf16Units_of_lt hlt]
  unfold escapeChar
  split
  · next h =>
    subst h
    exact hletter '"' rfl (by decide) (by decide)
  · next hquote =>
    split
    · next h =>
      subst h
      exact hletter '\\' rfl (by decide) (by decide)
    · next hbackslash =>
      split
      · next h =>
        subst h
        exact hletter 'n' rfl (by decide) (by decide)
      · split
        · next h =>
          subst h
          exact hletter 'r' rfl (by decide) (by decide)
        · split
          · next h =>
            subst h
            exact hletter 't' rfl (by decide) (by decide)
          · split
            · next h => exact hletter 'f' (h ▸ rfl) (by decide) (by omega)
            · split
              · next h => exact hletter 'b' (h ▸ rfl) (by decide) (by omega)
              · split
                · next hplain =>
                  rw [List.singleton_append, readUnits, if_neg hquote, if_neg hbackslash,
                    if_neg (by omega), utf16Units_of_lt (by omega)]
                · exact readUnits_unicodeEscapes utf16Units_lt

theorem readUnits_escapeChars (cs : List Char) :
    readUnits .plain (cs.flatMap escapeChar ++ '"' :: rest) =
      some (cs.flatMap utf16Units, rest) := by
  induction cs with
  | nil => rfl
  | cons c cs ih =>
    rw [List.flatMap_cons, List.append_assoc, readUnits_escapeChar, ih, List.flatMap_cons]
    rfl

theorem joinSurrogates_cons (h : ¬ (0xD800 ≤ n ∧ n ≤ 0xDFFF)) (ns : List ℕ) :
    joinSurrogates (n :: ns) = (joinSurrogates ns).map (Char.ofNat n :: ·) := by
  cases ns with
  | nil => exact if_neg h
  | cons m ns => rw [joinSurrogates, if_neg (by omega), if_neg h]

theorem joinSurrogates_utf16Units (ns : List ℕ) :
    joinSurrogates (utf16Units c ++ ns) = (joinSurrogates ns).map (c :: ·) := by
  have hrange := toNat_ranges c
  unfold utf16Units
  split
  · rw [List.singleton_append, joinSurrogates_cons (by omega), Char.ofNat_toNat]
  · have hvalue : 0x10000 + (0xD800 + (c.toNat - 0x10000) / 1024 - 0xD800) * 1024 +
        (0xDC00 + (c.toNat - 0x10000) % 1024 - 0xDC00) = c.toNat := by omega
    simp only [List.cons_append, List.nil_append]
    rw [joinSurrogates, if_pos (by omega), hvalue, Char.ofNat_toNat]

theorem joinSurrogates_flatMap (cs : List Char) :
    joinSurrogates (cs.flatMap utf16Units) = some cs := by
  induction cs with
  | nil => rfl
  | cons c cs ih => rw [List.flatMap_cons, joinSurrogates_utf16Units, ih, Option.map_some]

theorem readString_writeString (text : String) :
    readString (writeString text ++ rest) = some (text, rest) := by
  rw [readString, writeString, List.cons_append, List.append_assoc]
  simp [List.dropPrefix?, readUnits_escapeChars, joinSurrogates_flatMap]

theorem readTextField_write (field : String × String) :
    readTextField (writeString field.1 ++ ':' :: (writeString field.2 ++ rest)) =
      some (field, rest) := by
  simp [readTextField, readString_writeString, List.dropPrefix?]

/-- Reading undoes writing. -/
theorem readTextPair_writeTextPair (first second : String × String) :
    readTextPair (writeTextPair first second) = some (first, second) := by
  simp [readTextPair, writeTextPair, readTextField_write, List.dropPrefix?]

theorem unicodeEscape_ascii (h : unit < 0x10000) : ∀ d ∈ unicodeEscape unit, d.toNat < 128 := by
  have hhex : ∀ n < 16, (hexDigit n).toNat < 128 := by decide
  have hmod : ∀ n, n % 16 < 16 := fun n => Nat.mod_lt n (by omega)
  simp only [unicodeEscape, List.forall_mem_cons]
  exact ⟨by decide, by decide, hhex _ (by omega), hhex _ (hmod _), hhex _ (hmod _),
    hhex _ (hmod _), by simp⟩

theorem escapeChar_ascii : ∀ d ∈ escapeChar c, d.toNat < 128 := by
  have hescaped : ∀ letter : Char, letter.toNat < 128 → ∀ d ∈ ['\\', letter], d.toNat < 128 := by
    intro letter hletter
    simp only [List.forall_mem_cons]
    exact ⟨by decide, hletter, by simp⟩
  unfold escapeChar
  repeat' split
  any_goals exact hescaped _ (by decide)
  · next hplain =>
    intro d hd
    obtain rfl := List.mem_singleton.mp hd
    omega
  · intro d hd
    obtain ⟨unit, hunit, hd⟩ := List.mem_flatMap.mp hd
    exact unicodeEscape_ascii (utf16Units_lt unit hunit) d hd

theorem writeString_ascii (text : String) : ∀ d ∈ writeString text, d.toNat < 128 := by
  simp only [writeString, List.forall_mem_cons, List.forall_mem_append]
  refine ⟨by decide, fun d hd => ?_, by decide, by simp⟩
  obtain ⟨c, -, hd⟩ := List.mem_flatMap.mp hd
  exact escapeChar_ascii d hd

/-- What is written is ASCII. -/
theorem writeTextPair_ascii (first second : String × String) :
    ∀ d ∈ writeTextPair first second, d.toNat < 128 := by
  simp only [writeTextPair, List.forall_mem_cons, List.forall_mem_append]
  exact ⟨by decide, writeString_ascii _, by decide, writeString_ascii _, by decide,
    writeString_ascii _, by decide, writeString_ascii _, by decide, by simp⟩

end RoundTrip

end LotusAdvise.JsonStrings
