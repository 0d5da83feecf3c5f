import LotusAdvise.Foundations.DateTime
import Mathlib.Data.String.Basic

/-! # Texts of date-times

The texts of date-times in UTC are ordered as their instants are: the fields stand in the order of
their weight with a fixed number of digits, and a text without a fraction comes before one with a
fraction, since `+` comes before a dot. Such a text can be read back.
-/

namespace LotusAdvise

section FixedWidth

variable {α : Type*} [LinearOrder α] {a b c d : List α}

/-- Where two lists start with equally long ones, the first difference is in these or behind
them. -/
theorem append_lt_append_iff (h : a.length = b.length) :
    a ++ c < b ++ d ↔ a < b ∨ a = b ∧ c < d := by
  induction a generalizing b with
  | nil =>
    obtain rfl := List.length_eq_zero_iff.mp h.symm
    simp
  | cons x a ih =>
    cases b with
    | nil => cases h
    | cons y b =>
      rw [List.cons_append, List.cons_append, List.cons_lt_cons_iff, List.cons_lt_cons_iff,
        ih (Nat.succ.inj h), List.cons.injEq]
      tauto

end FixedWidth

namespace Text

variable {w m n : ℕ}

@[simp] theorem length_pad : (pad w n).length = w := by
  induction w generalizing n with
  | zero => rfl
  | succ w ih => rw [pad, List.length_append, ih, List.length_singleton]

theorem digit_lt_iff (hm : m < 10) (hn : n < 10) : digit m < digit n ↔ m < n := by
  have hall : ∀ m < 10, ∀ n < 10, (digit m < digit n ↔ m < n) := by decide
  exact hall m hm n hn

theorem digit_mod : digit (n % 10) = digit n := by rw [digit, digit, Nat.mod_mod]

theorem digit_inj (hm : m < 10) (hn : n < 10) : digit m = digit n ↔ m = n := by
  have hall : ∀ m < 10, ∀ n < 10, (digit m = digit n ↔ m = n) := by decide
  exact hall m hm n hn

theorem pad_inj (hm : m < 10 ^ w) (hn : n < 10 ^ w) : pad w m = pad w n ↔ m = n := by
  induction w generalizing m n with
  | zero =>
    rw [pow_zero, Nat.lt_one_iff] at hm hn
    simp [hm, hn]
  | succ w ih =>
    rw [pow_succ] at hm hn
    refine ⟨fun h => ?_, fun h => h ▸ rfl⟩
    rw [pad, pad] at h
    obtain ⟨hfront, hlast⟩ := List.append_inj h (by simp)
    have hdiv := (ih (by omega) (by omega)).mp hfront
    have hmod := (List.cons.inj hlast).1
    rw [← digit_mod, ← @digit_mod n, digit_inj (by omega) (by omega)] at hmod
    omega

theorem all_isDigit_pad : (pad w n).all Char.isDigit = true := by
  have hdigit : ∀ n < 10, (digit n).isDigit = true := by decide
  induction w generalizing n with
  | zero => rfl
  | succ w ih =>
    rw [pad, List.all_append, ih, ← digit_mod, List.all_cons, hdigit _ (Nat.mod_lt _ (by omega))]
    rfl

theorem ofDigitChars_pad (h : n < 10 ^ w) : Nat.ofDigitChars 10 (pad w n) 0 = n := by
  have hdigit : ∀ n < 10, (digit n).toNat - '0'.toNat = n := by decide
  induction w generalizing n with
  | zero =>
    rw [pow_zero, Nat.lt_one_iff] at h
    rw [h]
    rfl
  | succ w ih =>
    rw [pow_succ] at h
    rw [pad, Nat.ofDigitChars_append, ih (by omega), ← digit_mod, Nat.ofDigitChars_cons,
      Nat.ofDigitChars_nil, hdigit _ (Nat.mod_lt _ (by omega))]
    omega

/-- Numbers with as many digits are ordered as their texts. -/
theorem pad_lt_iff (hm : m < 10 ^ w) (hn : n < 10 ^ w) : pad w m < pad w n ↔ m < n := by
  induction w generalizing m n with
  | zero =>
    rw [pow_zero, Nat.lt_one_iff] at hm hn
    simp [hm, hn]
  | succ w ih =>
    rw [pow_succ] at hm hn
    rw [pad, pad, append_lt_append_iff (by simp), ih (by omega) (by omega),
      pad_inj (by omega) (by omega), List.cons_lt_cons_iff, ← digit_mod, ← @digit_mod n,
      digit_lt_iff (by omega) (by omega)]
    simp only [List.not_lt_nil, and_false, or_false]
    omega

end Text

namespace Calendar

theorem daysInMonth_le (year month : ℕ) : daysInMonth year month ≤ 31 := by
  unfold daysInMonth
  split
  · split <;> decide
  all_goals decide

theorem one_le_toOrdinal {year month day : ℕ} (hday : 1 ≤ day) : 1 ≤ toOrdinal year month day := by
  unfold toOrdinal
  omega

theorem daysBeforeMonth_succ {year month : ℕ} (h : 1 ≤ month) :
    daysBeforeMonth year (month + 1) = daysBeforeMonth year month + daysInMonth year month := by
  rw [daysBeforeMonth, if_neg (by omega)]

theorem daysBeforeMonth_mono (year : ℕ) {month month' : ℕ} (h : month ≤ month') :
    daysBeforeMonth year month ≤ daysBeforeMonth year month' := by
  induction h with
  | refl => exact le_rfl
  | @step month' _ ih =>
    refine ih.trans ?_
    cases month' with
    | zero => exact Nat.zero_le _
    | succ month' =>
      rw [Nat.succ_eq_add_one, daysBeforeMonth_succ (Nat.succ_pos _)]
      exact Nat.le_add_right _ _

theorem succ_div_of_mod (n k : ℕ) :
    (n + 1) / k = n / k + if (n + 1) % k = 0 then 1 else 0 := by
  rw [Nat.succ_div]
  simp only [Nat.dvd_iff_mod_eq_zero]

/-- The days of a year are those of its months. -/
theorem daysBeforeYear_succ {year : ℕ} (h : 1 ≤ year) :
    daysBeforeYear (year + 1) = daysBeforeYear year + daysBeforeMonth year 13 := by
  obtain ⟨n, rfl⟩ := Nat.exists_eq_add_of_le' h
  have hmonths : daysBeforeMonth (n + 1) 13 = 337 + daysInMonth (n + 1) 2 := by
    simp [daysBeforeMonth, daysInMonth]
    omega
  have hfebruary : daysInMonth (n + 1) 2 =
      if (n + 1) % 4 = 0 ∧ ((n + 1) % 100 ≠ 0 ∨ (n + 1) % 400 = 0) then 29 else 28 := by
    simp [daysInMonth, isLeap]
  have hcenturies : n / 100 ≤ n / 4 := by omega
  have hfour : (n + 1) % 100 = 0 → (n + 1) % 4 = 0 := by omega
  have hhundred : (n + 1) % 400 = 0 → (n + 1) % 100 = 0 := by omega
  unfold daysBeforeYear
  rw [hmonths, hfebruary, Nat.add_sub_cancel, Nat.add_sub_cancel]
  dsimp only
  rw [succ_div_of_mod n 4, succ_div_of_mod n 100, succ_div_of_mod n 400]
  generalize (n + 1) % 4 = a at *
  generalize (n + 1) % 100 = b at *
  generalize (n + 1) % 400 = c at *
  generalize n / 4 = fours at *
  generalize n / 100 = hundreds at *
  generalize n / 400 = fourHundreds at *
  split_ifs <;> omega

theorem daysBeforeYear_mono {year year' : ℕ} (hyear : 1 ≤ year) (h : year ≤ year') :
    daysBeforeYear year ≤ daysBeforeYear year' := by
  induction h with
  | refl => exact le_rfl
  | @step year' h ih =>
    rw [daysBeforeYear_succ (hyear.trans h)]
    omega

section Order

variable {year month day year' month' day' : ℕ}

theorem toOrdinal_lt_of_month (hmonth : 1 ≤ month) (hday : day ≤ daysInMonth year month)
    (hday' : 1 ≤ day') (h : month < month') :
    toOrdinal year month day < toOrdinal year month' day' := by
  have hnext := @daysBeforeMonth_succ year _ hmonth
  have hmono : daysBeforeMonth year (month + 1) ≤ daysBeforeMonth year month' :=
    daysBeforeMonth_mono year h
  unfold toOrdinal
  omega

theorem toOrdinal_lt_of_year (hyear : 1 ≤ year) (hmonth : 1 ≤ month ∧ month ≤ 12)
    (hday : day ≤ daysInMonth year month) (hday' : 1 ≤ day') (h : year < year') :
    toOrdinal year month day < toOrdinal year' month' day' := by
  have hnext := @daysBeforeMonth_succ year _ hmonth.1
  have hmono : daysBeforeMonth year (month + 1) ≤ daysBeforeMonth year 13 :=
    daysBeforeMonth_mono year (Nat.succ_le_succ hmonth.2)
  have hyears : daysBeforeYear (year + 1) ≤ daysBeforeYear year' :=
    daysBeforeYear_mono (hyear.trans year.le_succ) h
  rw [daysBeforeYear_succ hyear] at hyears
  unfold toOrdinal
  omega

end Order

end Calendar

namespace DateTime

/-- The first field that differs is smaller. -/
def FieldsBefore (t u : DateTime) : Prop :=
  t.year < u.year ∨ t.year = u.year ∧ (t.month < u.month ∨ t.month = u.month ∧ (t.day < u.day ∨
    t.day = u.day ∧ (t.hour < u.hour ∨ t.hour = u.hour ∧ (t.minute < u.minute ∨
      t.minute = u.minute ∧ (t.second < u.second ∨ t.second = u.second ∧
        t.microsecond < u.microsecond)))))

variable {t u : DateTime}

theorem localMicroseconds_lt (h : t.FieldsBefore u) :
    t.localMicroseconds < u.localMicroseconds := by
  obtain ⟨hyear, hmonth, hday, hhour, hminute, hsecond, hmicrosecond, -⟩ := t.inRange
  obtain ⟨-, -, hday', hhour', hminute', hsecond', hmicrosecond', -⟩ := u.inRange
  have hpos := @Calendar.one_le_toOrdinal t.year t.month _ hday.1
  have hpos' := @Calendar.one_le_toOrdinal u.year u.month _ hday'.1
  have hdate : Calendar.toOrdinal t.year t.month t.day < Calendar.toOrdinal u.year u.month u.day ∨
      Calendar.toOrdinal t.year t.month t.day = Calendar.toOrdinal u.year u.month u.day ∧
        (t.hour < u.hour ∨ t.hour = u.hour ∧ (t.minute < u.minute ∨ t.minute = u.minute ∧
          (t.second < u.second ∨ t.second = u.second ∧ t.microsecond < u.microsecond))) := by
    rcases h with h | ⟨hsame, h | ⟨hsameMonth, h | ⟨hsameDay, h⟩⟩⟩
    · exact .inl (Calendar.toOrdinal_lt_of_year hyear.1 hmonth hday.2 hday'.1 h)
    · rw [← hsame]
      exact .inl (Calendar.toOrdinal_lt_of_month hmonth.1 hday.2 hday'.1 h)
    · rw [← hsame, ← hsameMonth]
      exact .inl (Nat.add_lt_add_left h _)
    · exact .inr ⟨by rw [hsame, hsameMonth, hsameDay], h⟩
  unfold localMicroseconds
  generalize Calendar.toOrdinal t.year t.month t.day = ordinal at hdate hpos ⊢
  generalize Calendar.toOrdinal u.year u.month u.day = ordinal' at hdate hpos' ⊢
  omega

theorem fieldsBefore_trichotomy (hoffset : t.utcOffset = u.utcOffset) :
    t.FieldsBefore u ∨ t = u ∨ u.FieldsBefore t := by
  by_cases hsame : t.year = u.year ∧ t.month = u.month ∧ t.day = u.day ∧ t.hour = u.hour ∧
      t.minute = u.minute ∧ t.second = u.second ∧ t.microsecond = u.microsecond
  · obtain ⟨hyear, hmonth, hday, hhour, hminute, hsecond, hmicrosecond⟩ := hsame
    refine .inr (.inl ?_)
    cases t
    cases u
    simp_all
  · unfold FieldsBefore
    omega

/-- The fields compare as the instants do. -/
theorem fieldsBefore_iff (hoffset : t.utcOffset = u.utcOffset) :
    t.FieldsBefore u ↔ t.localMicroseconds < u.localMicroseconds := by
  refine ⟨localMicroseconds_lt, fun h => ?_⟩
  rcases fieldsBefore_trichotomy hoffset with hbefore | rfl | hafter
  · exact hbefore
  · exact absurd h (lt_irrefl _)
  · exact absurd h (localMicroseconds_lt hafter).not_gt

theorem eq_of_localMicroseconds (hoffset : t.utcOffset = u.utcOffset)
    (h : t.localMicroseconds = u.localMicroseconds) : t = u := by
  rcases fieldsBefore_trichotomy hoffset with hbefore | rfl | hafter
  · exact absurd h (localMicroseconds_lt hbefore).ne
  · rfl
  · exact absurd h (localMicroseconds_lt hafter).ne'

section Texts

/-- The end of the text of a date-time in UTC. -/
def isoEnd (microsecond : ℕ) : List Char :=
  (if microsecond = 0 then [] else '.' :: Text.pad 6 microsecond) ++ ['+', '0', '0', ':', '0', '0']

theorem toList_isoformat (h : t.utcOffset = some 0) :
    t.isoformat.toList = Text.pad 4 t.year ++ '-' :: (Text.pad 2 t.month ++ '-' ::
      (Text.pad 2 t.day ++ 'T' :: (Text.pad 2 t.hour ++ ':' :: (Text.pad 2 t.minute ++ ':' ::
        (Text.pad 2 t.second ++ isoEnd t.microsecond))))) := by
  have hoffset : isoOffset (some 0) = ['+', '0', '0', ':', '0', '0'] := by decide
  simp only [isoformat, isoTime, h, hoffset, isoEnd, String.toList_ofList, List.append_assoc,
    List.cons_append, List.nil_append]

theorem isoEnd_lt_iff {m n : ℕ} (hm : m < 1000000) (hn : n < 1000000) :
    isoEnd m < isoEnd n ↔ m < n := by
  unfold isoEnd
  by_cases hzero : m = 0
  · by_cases hzero' : n = 0
    · simp [hzero, hzero']
    · rw [if_pos hzero, if_neg hzero']
      exact iff_of_true (List.cons_lt_cons_iff.mpr (.inl (by decide))) (by omega)
  · by_cases hzero' : n = 0
    · rw [if_neg hzero, if_pos hzero']
      refine iff_of_false (fun h => ?_) (by omega)
      rcases List.cons_lt_cons_iff.mp h with h | ⟨h, -⟩
      · exact absurd h (by decide)
      · exact absurd h (by decide)
    · rw [if_neg hzero, if_neg hzero', List.cons_append, List.cons_append, List.cons_lt_cons_iff,
        append_lt_append_iff (by simp), Text.pad_lt_iff hm hn]
      simp

/-- Texts of date-times in UTC compare as their instants do. -/
theorem isoformat_lt_iff (ht : t.utcOffset = some 0) (hu : u.utcOffset = some 0) :
    t.isoformat < u.isoformat ↔ t.localMicroseconds < u.localMicroseconds := by
  obtain ⟨hyear, hmonth, hday, hhour, hminute, hsecond, hmicrosecond, -⟩ := t.inRange
  obtain ⟨hyear', hmonth', hday', hhour', hminute', hsecond', hmicrosecond', -⟩ := u.inRange
  have hmonthDays : t.day ≤ 31 := hday.2.trans (Calendar.daysInMonth_le t.year t.month)
  have hmonthDays' : u.day ≤ 31 := hday'.2.trans (Calendar.daysInMonth_le u.year u.month)
  have hpad : ∀ {w m n : ℕ} {rest rest' : List Char} (mark : Char), m < 10 ^ w → n < 10 ^ w →
      (Text.pad w m ++ mark :: rest < Text.pad w n ++ mark :: rest' ↔
        m < n ∨ m = n ∧ rest < rest') := by
    intro w m n rest rest' mark hm hn
    rw [append_lt_append_iff (by simp), Text.pad_lt_iff hm hn, Text.pad_inj hm hn,
      List.cons_lt_cons_iff]
    simp
  rw [← fieldsBefore_iff (ht.trans hu.symm), String.lt_iff_toList_lt, toList_isoformat ht,
    toList_isoformat hu, hpad '-' (by omega) (by omega), hpad '-' (by omega) (by omega),
    hpad 'T' (by omega) (by omega), hpad ':' (by omega) (by omega), hpad ':' (by omega) (by omega),
    append_lt_append_iff (by simp), Text.pad_lt_iff (by omega) (by omega),
    Text.pad_inj (by omega) (by omega), isoEnd_lt_iff hmicrosecond hmicrosecond']
  rfl

theorem isoformat_inj (ht : t.utcOffset = some 0) (hu : u.utcOffset = some 0) :
    t.isoformat = u.isoformat ↔ t = u := by
  refine ⟨fun h => ?_, fun h => h ▸ rfl⟩
  refine eq_of_localMicroseconds (ht.trans hu.symm) (le_antisymm ?_ ?_)
  · rw [← not_lt, ← isoformat_lt_iff hu ht, h]
    exact lt_irrefl _
  · rw [← not_lt, ← isoformat_lt_iff ht hu, h]
    exact lt_irrefl _

end Texts

section Reading

def readDigits (width : ℕ) (cs : List Char) : Option (ℕ × List Char) :=
  if (cs.take width).length = width ∧ (cs.take width).all Char.isDigit then
    some (Nat.ofDigitChars 10 (cs.take width) 0, cs.drop width)
  else none

def readFraction : List Char → Option (ℕ × List Char)
  | '.' :: cs => readDigits 6 cs
  | cs => some (0, cs)

/-- The date-time in UTC that a text in the form of `isoformat` stands for. -/
def ofUtcIsoformat? (text : String) : Option DateTime := do
  let (year, cs) ← readDigits 4 text.toList
  let cs ← cs.dropPrefix? ['-']
  let (month, cs) ← readDigits 2 cs
  let cs ← cs.dropPrefix? ['-']
  let (day, cs) ← readDigits 2 cs
  let cs ← cs.dropPrefix? ['T']
  let (hour, cs) ← readDigits 2 cs
  let cs ← cs.dropPrefix? [':']
  let (minute, cs) ← readDigits 2 cs
  let cs ← cs.dropPrefix? [':']
  let (second, cs) ← readDigits 2 cs
  let (microsecond, cs) ← readFraction cs
  if cs = ['+', '0', '0', ':', '0', '0'] then
    if h : InRange year month day hour minute second microsecond (some 0) then
      return ⟨year, month, day, hour, minute, second, microsecond, some 0, h⟩
    else none
  else none

theorem readDigits_pad {w n : ℕ} (h : n < 10 ^ w) (rest : List Char) :
    readDigits w (Text.pad w n ++ rest) = some (n, rest) := by
  have htake : (Text.pad w n ++ rest).take w = Text.pad w n := List.take_left' Text.length_pad
  have hdrop : (Text.pad w n ++ rest).drop w = rest := List.drop_left' Text.length_pad
  rw [readDigits, htake, hdrop, if_pos ⟨Text.length_pad, Text.all_isDigit_pad⟩,
    Text.ofDigitChars_pad h]

theorem readFraction_isoEnd {n : ℕ} (h : n < 1000000) :
    readFraction (isoEnd n) = some (n, ['+', '0', '0', ':', '0', '0']) := by
  unfold isoEnd
  split
  · next hzero =>
    subst hzero
    rfl
  · exact readDigits_pad h _

/-- Reading undoes `isoformat`. -/
theorem ofUtcIsoformat?_isoformat (h : t.utcOffset = some 0) :
    ofUtcIsoformat? t.isoformat = some t := by
  obtain ⟨hyear, hmonth, hday, hhour, hminute, hsecond, hmicrosecond, hoffset⟩ := t.inRange
  have hmonthDays : t.day ≤ 31 := hday.2.trans (Calendar.daysInMonth_le t.year t.month)
  have hrange : InRange t.year t.month t.day t.hour t.minute t.second t.microsecond (some 0) :=
    h ▸ t.inRange
  have hmark : ∀ (mark : Char) (rest : List Char),
      (mark :: rest).dropPrefix? [mark] = some rest := by simp [List.dropPrefix?]
  have hyearText := @readDigits_pad 4 t.year (by omega)
  have hmonthText := @readDigits_pad 2 t.month (by omega)
  have hdayText := @readDigits_pad 2 t.day (by omega)
  have hhourText := @readDigits_pad 2 t.hour (by omega)
  have hminuteText := @readDigits_pad 2 t.minute (by omega)
  have hsecondText := @readDigits_pad 2 t.second (by omega)
  rw [ofUtcIsoformat?, toList_isoformat h]
  simp only [hyearText, hmark, hmonthText, hdayText, hhourText, hminuteText, hsecondText,
    readFraction_isoEnd hmicrosecond, Option.bind_eq_bind, Option.bind_some, if_true,
    dif_pos hrange]
  exact congrArg some (by cases t; cases h; rfl)

end Reading

end DateTime

end LotusAdvise
