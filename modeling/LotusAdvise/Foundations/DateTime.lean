import LotusAdvise.Foundations.Text
import Mathlib.Data.Int.Order.Basic
import Mathlib.Data.List.Basic
import Mathlib.Order.Basic

/-! # Date-times

A date-time has calendar fields in their ranges and, when it is aware, an offset from
UTC. It is written with `isoformat`; two of them compare by their instants when both
are aware, by their fields when both are naive, and not at all otherwise.
-/

namespace LotusAdvise

namespace Calendar

def isLeap (year : ℕ) : Bool := year % 4 = 0 && (year % 100 ≠ 0 || year % 400 = 0)

def daysInMonth (year month : ℕ) : ℕ :=
  match month with
  | 2 => if isLeap year then 29 else 28
  | 4 | 6 | 9 | 11 => 30
  | _ => 31

def daysBeforeYear (year : ℕ) : ℕ :=
  let y := year - 1
  y * 365 + y / 4 - y / 100 + y / 400

def daysBeforeMonth (year : ℕ) : ℕ → ℕ
  | 0 => 0
  | month + 1 => if month = 0 then 0 else daysBeforeMonth year month + daysInMonth year month

theorem daysInMonth_pos (year month : ℕ) : 1 ≤ daysInMonth year month := by
  unfold daysInMonth
  split
  · split <;> decide
  all_goals decide

/-- The ordinal of a day, counted from 0001-01-01 as day one. -/
def toOrdinal (year month day : ℕ) : ℕ := daysBeforeYear year + daysBeforeMonth year month + day

end Calendar

/-- The fields of a date-time lie in the ranges the constructor checks. -/
def DateTime.InRange (year month day hour minute second microsecond : ℕ)
    (utcOffset : Option ℤ) : Prop :=
  (1 ≤ year ∧ year ≤ 9999) ∧ (1 ≤ month ∧ month ≤ 12) ∧
    (1 ≤ day ∧ day ≤ Calendar.daysInMonth year month) ∧
    hour < 24 ∧ minute < 60 ∧ second < 60 ∧ microsecond < 1000000 ∧
    ∀ offset ∈ utcOffset, -86400000000 < offset ∧ offset < 86400000000

instance (year month day hour minute second microsecond : ℕ) (utcOffset : Option ℤ) :
    Decidable (DateTime.InRange year month day hour minute second microsecond utcOffset) := by
  unfold DateTime.InRange
  infer_instance

/-- A date-time; the offset from UTC is in microseconds. -/
structure DateTime where
  year : ℕ
  month : ℕ
  day : ℕ
  hour : ℕ
  minute : ℕ
  second : ℕ
  microsecond : ℕ
  utcOffset : Option ℤ
  inRange : DateTime.InRange year month day hour minute second microsecond utcOffset
deriving DecidableEq

namespace DateTime

/-- Microseconds since 0001-01-01T00:00:00 on the date-time's own clock. -/
def localMicroseconds (t : DateTime) : ℤ :=
  (((Calendar.toOrdinal t.year t.month t.day - 1) * 24 + t.hour) * 60 + t.minute : ℕ) * 60000000 +
    (t.second * 1000000 + t.microsecond : ℕ)

/-- `self < other`; `none` is the error of comparing a naive with an aware date-time. -/
def lt? (t u : DateTime) : Option Bool :=
  match t.utcOffset, u.utcOffset with
  | none, none => some (t.localMicroseconds < u.localMicroseconds)
  | some a, some b => some (t.localMicroseconds - a < u.localMicroseconds - b)
  | _, _ => none

/-- `max(a, b)`, which keeps the first argument unless the second is greater. -/
def max? (t u : DateTime) : Option DateTime := (t.lt? u).map fun b => if b then u else t

def isoTime (hour minute second microsecond : ℕ) : List Char :=
  Text.pad 2 hour ++ [':'] ++ Text.pad 2 minute ++ [':'] ++ Text.pad 2 second ++
    if microsecond = 0 then [] else '.' :: Text.pad 6 microsecond

def isoOffset : Option ℤ → List Char
  | none => []
  | some offset =>
    let n := offset.natAbs
    let seconds := n / 1000000 % 60
    let fraction := n % 1000000
    (if offset < 0 then '-' else '+') :: Text.pad 2 (n / 3600000000) ++ [':'] ++
      Text.pad 2 (n / 60000000 % 60) ++
      (if seconds = 0 ∧ fraction = 0 then [] else ':' :: Text.pad 2 seconds) ++
      if fraction = 0 then [] else '.' :: Text.pad 6 fraction

/-- `t.date().isoformat()`. -/
def isoDate (t : DateTime) : String :=
  String.ofList <| Text.pad 4 t.year ++ ['-'] ++ Text.pad 2 t.month ++ ['-'] ++ Text.pad 2 t.day

def isoformat (t : DateTime) : String :=
  String.ofList <| Text.pad 4 t.year ++ ['-'] ++ Text.pad 2 t.month ++ ['-'] ++ Text.pad 2 t.day ++
    ['T'] ++ isoTime t.hour t.minute t.second t.microsecond ++ isoOffset t.utcOffset

/-- A time of day in UTC. -/
def utc (year month day hour minute second microsecond : ℕ)
    (h : InRange year month day hour minute second microsecond (some 0) := by decide) : DateTime :=
  ⟨year, month, day, hour, minute, second, microsecond, some 0, h⟩

/-- A naive date-time read as one in UTC. -/
def orUtc (t : DateTime) : DateTime :=
  { t with
    utcOffset := some (t.utcOffset.getD 0)
    inRange := by
      obtain ⟨hyear, hmonth, hday, hhour, hminute, hsecond, hmicrosecond, hoffset⟩ := t.inRange
      refine ⟨hyear, hmonth, hday, hhour, hminute, hsecond, hmicrosecond, ?_⟩
      rintro _ ⟨⟩
      cases h : t.utcOffset with
      | none => exact ⟨by decide, by decide⟩
      | some offset => exact hoffset offset h }

theorem lt?_self (t : DateTime) : t.lt? t = some false := by
  unfold lt?
  cases t.utcOffset <;> simp

theorem max?_self (t : DateTime) : t.max? t = some t := by simp [max?, lt?_self]

/-- A date-time that is not before another is not before what the other is not before either. -/
theorem not_lt?_trans {t u v : DateTime} (htu : t.lt? u = some false) (huv : u.lt? v = some false) :
    t.lt? v = some false := by
  unfold lt? at *
  split at htu
  · next ht hu =>
    rw [hu] at huv
    cases hv : v.utcOffset with
    | none =>
      simp only [ht, hu, hv, Option.some.injEq, decide_eq_false_iff_not] at *
      omega
    | some c => simp [hv] at huv
  · next a b ht hu =>
    rw [hu] at huv
    cases hv : v.utcOffset with
    | none => simp [hv] at huv
    | some c =>
      simp only [ht, hu, hv, Option.some.injEq, decide_eq_false_iff_not] at *
      omega
  · cases htu

/-- Two date-times that compare are in order in one of the two ways. -/
theorem not_lt?_of_lt? {t u : DateTime} (h : t.lt? u = some true) : u.lt? t = some false := by
  unfold lt? at *
  split at h
  · next ht hu =>
    simp only [ht, hu, Option.some.injEq, decide_eq_true_eq, decide_eq_false_iff_not] at *
    omega
  · next a b ht hu =>
    simp only [ht, hu, Option.some.injEq, decide_eq_true_eq, decide_eq_false_iff_not] at *
    omega
  · cases h

theorem max?_eq_some {t u m : DateTime} (h : t.max? u = some m) :
    (m = t ∨ m = u) ∧ m.lt? t = some false ∧ m.lt? u = some false := by
  obtain ⟨b, hb, hm⟩ := Option.map_eq_some_iff.mp h
  cases b with
  | true =>
    obtain rfl : u = m := hm
    exact ⟨.inr rfl, not_lt?_of_lt? hb, lt?_self u⟩
  | false =>
    obtain rfl : t = m := hm
    exact ⟨.inl rfl, lt?_self t, hb⟩

/-- One of the date-times of a list that none of them is later than. -/
def IsLatest (t : DateTime) (times : List DateTime) : Prop :=
  t ∈ times ∧ ∀ u ∈ times, t.lt? u = some false

section IsLatest

variable {t u : DateTime} {times : List DateTime}

theorem isLatest_singleton (t : DateTime) : IsLatest t [t] := by
  refine ⟨List.mem_singleton_self t, fun u hu => ?_⟩
  rw [List.mem_singleton.mp hu, lt?_self]

/-- A date-time added to the list is the latest when the latest before is not later. -/
theorem IsLatest.concat_iff (h : IsLatest t times) :
    IsLatest u (times ++ [u]) ↔ u.lt? t = some false := by
  constructor
  · intro hu
    exact hu.2 t (List.mem_append_left _ h.1)
  · intro hut
    refine ⟨List.mem_append_right _ (List.mem_singleton_self u), fun v hv => ?_⟩
    rcases List.mem_append.mp hv with hv | hv
    · exact not_lt?_trans hut (h.2 v hv)
    · rw [List.mem_singleton.mp hv, lt?_self]

theorem IsLatest.concat_max (h : IsLatest t times) {m : DateTime} (hm : t.max? u = some m) :
    IsLatest m (times ++ [u]) := by
  obtain ⟨heq, hmt, hmu⟩ := max?_eq_some hm
  constructor
  · rcases heq with rfl | rfl
    · exact List.mem_append_left _ h.1
    · exact List.mem_append_right _ (List.mem_singleton_self m)
  · intro v hv
    rcases List.mem_append.mp hv with hv | hv
    · exact not_lt?_trans hmt (h.2 v hv)
    · rwa [List.mem_singleton.mp hv]

end IsLatest

section Addition

variable {t u : DateTime} {n : ℕ}

/-- The same time of the next day; none follows 9999-12-31. -/
def nextDay? (t : DateTime) : Option DateTime :=
  if h : t.day < Calendar.daysInMonth t.year t.month then
    some { t with
      day := t.day + 1
      inRange := by
        obtain ⟨hyear, hmonth, hday, hrest⟩ := t.inRange
        exact ⟨hyear, hmonth, ⟨by omega, h⟩, hrest⟩ }
  else if h : t.month < 12 then
    some { t with
      month := t.month + 1
      day := 1
      inRange := by
        obtain ⟨hyear, -, -, hrest⟩ := t.inRange
        exact ⟨hyear, ⟨by omega, h⟩, ⟨Nat.le_refl 1, Calendar.daysInMonth_pos _ _⟩, hrest⟩ }
  else if h : t.year < 9999 then
    some { t with
      year := t.year + 1
      month := 1
      day := 1
      inRange := by
        obtain ⟨-, -, -, hrest⟩ := t.inRange
        exact ⟨⟨by omega, h⟩, by decide, ⟨Nat.le_refl 1, Calendar.daysInMonth_pos _ _⟩, hrest⟩ }
  else none

def nextMinute? (t : DateTime) : Option DateTime :=
  if h : t.minute < 59 then
    some { t with
      minute := t.minute + 1
      inRange := by
        obtain ⟨hyear, hmonth, hday, hhour, -, hrest⟩ := t.inRange
        exact ⟨hyear, hmonth, hday, hhour, by omega, hrest⟩ }
  else if h : t.hour < 23 then
    some { t with
      hour := t.hour + 1
      minute := 0
      inRange := by
        obtain ⟨hyear, hmonth, hday, -, -, hrest⟩ := t.inRange
        exact ⟨hyear, hmonth, hday, by omega, by decide, hrest⟩ }
  else
    nextDay? { t with
      hour := 0
      minute := 0
      inRange := by
        obtain ⟨hyear, hmonth, hday, -, -, hrest⟩ := t.inRange
        exact ⟨hyear, hmonth, hday, by decide, by decide, hrest⟩ }

def nextSecond? (t : DateTime) : Option DateTime :=
  if h : t.second < 59 then
    some { t with
      second := t.second + 1
      inRange := by
        obtain ⟨hyear, hmonth, hday, hhour, hminute, -, hrest⟩ := t.inRange
        exact ⟨hyear, hmonth, hday, hhour, hminute, by omega, hrest⟩ }
  else
    nextMinute? { t with
      second := 0
      inRange := by
        obtain ⟨hyear, hmonth, hday, hhour, hminute, -, hrest⟩ := t.inRange
        exact ⟨hyear, hmonth, hday, hhour, hminute, by decide, hrest⟩ }

/-- `t + timedelta(days=n)`; `none` is the overflow of the calendar. -/
def addDays? : ℕ → DateTime → Option DateTime
  | 0, t => some t
  | n + 1, t => t.nextDay?.bind (addDays? n)

/-- `t + timedelta(seconds=n)`; `none` is the overflow of the calendar. -/
def addSeconds? : ℕ → DateTime → Option DateTime
  | 0, t => some t
  | n + 1, t => t.nextSecond?.bind (addSeconds? n)

theorem utcOffset_nextDay? (h : t.nextDay? = some u) : u.utcOffset = t.utcOffset := by
  unfold nextDay? at h
  split at h
  · rw [← Option.some.inj h]
  split at h
  · rw [← Option.some.inj h]
  split at h
  · rw [← Option.some.inj h]
  · cases h

theorem utcOffset_nextMinute? (h : t.nextMinute? = some u) : u.utcOffset = t.utcOffset := by
  unfold nextMinute? at h
  split at h
  · rw [← Option.some.inj h]
  split at h
  · rw [← Option.some.inj h]
  · rw [utcOffset_nextDay? h]

theorem utcOffset_nextSecond? (h : t.nextSecond? = some u) : u.utcOffset = t.utcOffset := by
  unfold nextSecond? at h
  split at h
  · rw [← Option.some.inj h]
  · rw [utcOffset_nextMinute? h]

theorem utcOffset_addSeconds? (h : t.addSeconds? n = some u) : u.utcOffset = t.utcOffset := by
  induction n generalizing t with
  | zero => rw [Option.some.inj h]
  | succ n ih =>
    obtain ⟨v, hv, hu⟩ := Option.bind_eq_some_iff.mp h
    exact (ih hu).trans (utcOffset_nextSecond? hv)

example : (utc 2026 12 31 23 59 30 0).addSeconds? 60 = some (utc 2027 1 1 0 0 30 0) := by decide

end Addition

example : (utc 2026 3 26 9 10 0 0).isoformat = "2026-03-26T09:10:00+00:00" := by decide

example : (utc 2026 3 26 9 10 0 5).isoformat = "2026-03-26T09:10:00.000005+00:00" := by decide

end DateTime

/-- A date-time in UTC, such as a reading of the clock. -/
structure UtcDateTime where
  time : DateTime
  utc : time.utcOffset = some 0
deriving DecidableEq

namespace UtcDateTime

instance : Preorder UtcDateTime :=
  @Preorder.lift _ _ Int.instLinearOrder.toPartialOrder.toPreorder fun t => t.time.localMicroseconds

instance : DecidableLE UtcDateTime := fun t u =>
  inferInstanceAs (Decidable (t.time.localMicroseconds ≤ u.time.localMicroseconds))

def isoformat (t : UtcDateTime) : String := t.time.isoformat

def addSeconds? (n : ℕ) (t : UtcDateTime) : Option UtcDateTime :=
  match h : t.time.addSeconds? n with
  | none => none
  | some u => some ⟨u, (DateTime.utcOffset_addSeconds? h).trans t.utc⟩

end UtcDateTime

end LotusAdvise
