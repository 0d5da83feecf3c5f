import Mathlib.Data.List.DropRight
import Mathlib.Data.List.TakeWhile
import Mathlib.Logic.Function.Basic

/-! # Text operations of the source language

Stripping of white space as `str.strip` does it, and the zero-padded decimals that
timestamps and numbered identifiers are written with.
-/

namespace LotusAdvise.Text

/-- The characters `str.strip` removes. -/
def isSpace (c : Char) : Bool :=
  let n := c.toNat
  (9 ≤ n && n ≤ 13) || (28 ≤ n && n ≤ 32) || n = 0x85 || n = 0xA0 || n = 0x1680 ||
    (0x2000 ≤ n && n ≤ 0x200A) || n = 0x2028 || n = 0x2029 || n = 0x202F || n = 0x205F || n = 0x3000

def stripChars (cs : List Char) : List Char :=
  ((cs.dropWhile isSpace).reverse.dropWhile isSpace).reverse

def strip (s : String) : String := String.ofList (stripChars s.toList)

/-- What is left after stripping is not blank. -/
theorem exists_of_stripChars {cs : List Char} (h : stripChars cs ≠ []) :
    ∃ c ∈ stripChars cs, isSpace c = false := by
  rcases hrest : (cs.dropWhile isSpace).reverse.dropWhile isSpace with _ | ⟨c, rest⟩
  · exact absurd (by rw [stripChars, hrest, List.reverse_nil]) h
  · refine ⟨c, by simp [stripChars, hrest], ?_⟩
    have hhead := List.head?_dropWhile_not isSpace (cs.dropWhile isSpace).reverse
    simpa [hrest] using hhead

theorem stripChars_ne_nil {cs : List Char} {c : Char} (hc : c ∈ cs) (hspace : isSpace c = false) :
    stripChars cs ≠ [] := by
  intro h
  have hall : ∀ d ∈ (cs.dropWhile isSpace).reverse, isSpace d = true :=
    List.dropWhile_eq_nil_iff.mp (List.reverse_eq_nil_iff.mp h)
  rcases hrest : cs.dropWhile isSpace with _ | ⟨d, rest⟩
  · rw [List.dropWhile_eq_nil_iff.mp hrest c hc] at hspace
    cases hspace
  · have hhead := List.head?_dropWhile_not isSpace cs
    rw [hrest] at hhead hall
    have hd := hall d (by simp)
    simp [hd] at hhead

/-- What is stripped does not start with a space. -/
theorem not_isSpace_of_dropWhile {cs rest : List Char} {c : Char}
    (h : cs.dropWhile isSpace = c :: rest) : isSpace c = false := by
  by_contra hspace
  have hagain : (c :: rest).dropWhile isSpace = c :: rest := by
    rw [← h, List.dropWhile_idempotent]
  rw [List.dropWhile_cons_of_pos (by simpa using hspace)] at hagain
  have hlength := List.length_dropWhile_le isSpace rest
  rw [hagain, List.length_cons] at hlength
  omega

theorem strip_strip (s : String) : strip (strip s) = strip s := by
  have hchars : ∀ cs, stripChars (stripChars cs) = stripChars cs := by
    intro cs
    have hstrip : ∀ cs, stripChars cs = (cs.dropWhile isSpace).rdropWhile isSpace :=
      fun _ => rfl
    rw [hstrip, hstrip]
    obtain ⟨rest, hprefix⟩ := List.rdropWhile_prefix isSpace (cs.dropWhile isSpace)
    rcases hstripped : (cs.dropWhile isSpace).rdropWhile isSpace with _ | ⟨c, stripped⟩
    · rfl
    · rw [hstripped, List.cons_append] at hprefix
      have hc := not_isSpace_of_dropWhile hprefix.symm
      rw [List.dropWhile_cons_of_neg (by simp [hc]), ← hstripped, List.rdropWhile_idempotent]
  rw [strip, strip, String.toList_ofList, hchars]

/-- A stripped text that is not empty stays so when it is stripped again. -/
theorem strip_strip_ne_empty {s : String} (h : strip s ≠ "") : strip (strip s) ≠ "" := by
  have hne : stripChars s.toList ≠ [] := by
    intro hnil
    exact h (by rw [strip, hnil, String.ofList_nil])
  obtain ⟨c, hc, hspace⟩ := exists_of_stripChars hne
  intro hempty
  have hlist : stripChars (strip s).toList = [] := by
    have := congrArg String.toList hempty
    simpa [strip] using this
  refine stripChars_ne_nil ?_ hspace hlist
  simpa [strip] using hc

/-- The capital of a character, where that is an ASCII letter. -/
def upperChar (c : Char) : Char :=
  if c = 'ı' then 'I' else if c = 'ſ' then 'S' else c.toUpper

/-- `str.upper`, as far as its result is ASCII. -/
def upper (s : String) : String := String.ofList (s.toList.map upperChar)

def digit (n : ℕ) : Char := Char.ofNat (48 + n % 10)

/-- The last `width` decimal digits of `n`. -/
def pad : (width n : ℕ) → List Char
  | 0, _ => []
  | w + 1, n => pad w (n / 10) ++ [digit n]

/-- The decimal digits of `n`, filled up with zeros to at least `width` of them. -/
def zeroFill (width n : ℕ) : List Char :=
  List.replicate (width - (Nat.toDigits 10 n).length) '0' ++ Nat.toDigits 10 n

theorem ofDigitChars_zeroFill (width n : ℕ) : Nat.ofDigitChars 10 (zeroFill width n) 0 = n := by
  rw [zeroFill, Nat.ofDigitChars_append, Nat.ofDigitChars_replicate_zero, Nat.mul_zero,
    Nat.ofDigitChars_ten_toDigits]

theorem zeroFill_injective (width : ℕ) : Function.Injective (zeroFill width) :=
  Function.LeftInverse.injective (ofDigitChars_zeroFill width)

theorem repr_injective : Function.Injective Nat.repr := by
  intro m n h
  have h := congrArg (fun text : String => Nat.ofDigitChars 10 text.toList 0) h
  simpa only [Nat.toList_repr, Nat.ofDigitChars_ten_toDigits] using h

/-- A prefix with a number has the number in it. -/
theorem numbered_injective (mark : String) : Function.Injective fun n : ℕ => mark ++ n.repr := by
  intro m n h
  have h := congrArg String.toList h
  rw [String.toList_append, String.toList_append] at h
  exact repr_injective (String.toList_injective (List.append_cancel_left h))

/-- A number does not start with another character than a digit. -/
theorem numbered_ne {mark other : String} {c : Char} {cs : List Char}
    (hother : other.toList = mark.toList ++ c :: cs) (hc : c.isDigit = false) (m n : ℕ) :
    mark ++ m.repr ≠ other ++ n.repr := by
  intro h
  have h := congrArg String.toList h
  rw [String.toList_append, String.toList_append, hother, List.append_assoc] at h
  have hmem : c ∈ Nat.toDigits 10 m := by
    rw [← Nat.toList_repr, List.append_cancel_left h]
    exact List.mem_cons_self
  rw [Nat.isDigit_of_mem_toDigits (by decide) (by decide) hmem] at hc
  cases hc

end LotusAdvise.Text
