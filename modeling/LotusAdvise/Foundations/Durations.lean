import LotusAdvise.Foundations.IsoTexts

/-! # Durations

Adding days and seconds to a date-time adds them to the instant that it stands for.
-/

namespace LotusAdvise.DateTime

/-- Microseconds since 0001-01-01T00:00:00 UTC, by which aware date-times compare. -/
def instant (t : DateTime) : ℤ := t.localMicroseconds - t.utcOffset.getD 0

/-- `t + timedelta(seconds=n)`, whose seconds are first carried to days; `none` is the overflow of
the calendar. -/
def afterSeconds? (n : ℕ) (t : DateTime) : Option DateTime :=
  (t.addDays? (n / 86400)).bind (addSeconds? (n % 86400))

variable {t u : DateTime} {n : ℕ}

theorem toOrdinal_nextDay? (h : t.nextDay? = some u) :
    Calendar.toOrdinal u.year u.month u.day = Calendar.toOrdinal t.year t.month t.day + 1 ∧
      u.hour = t.hour ∧ u.minute = t.minute ∧ u.second = t.second ∧
      u.microsecond = t.microsecond := by
  obtain ⟨hyear, hmonth, hday, -⟩ := t.inRange
  have hnext := @Calendar.daysBeforeMonth_succ t.year _ hmonth.1
  unfold nextDay? at h
  split at h
  · obtain rfl := Option.some.inj h
    exact ⟨rfl, rfl, rfl, rfl, rfl⟩
  split at h
  · obtain rfl := Option.some.inj h
    refine ⟨?_, rfl, rfl, rfl, rfl⟩
    unfold Calendar.toOrdinal
    dsimp only
    omega
  split at h
  · obtain rfl := Option.some.inj h
    refine ⟨?_, rfl, rfl, rfl, rfl⟩
    have hdecember : t.month = 12 := by omega
    have hyears := Calendar.daysBeforeYear_succ hyear.1
    have hlength : Calendar.daysInMonth t.year t.month = Calendar.daysInMonth t.year 12 := by
      rw [hdecember]
    rw [hdecember] at hnext ⊢
    change Calendar.daysBeforeMonth t.year 13 = _ at hnext
    unfold Calendar.toOrdinal
    dsimp only
    rw [hyears, hnext]
    have hfirst : Calendar.daysBeforeMonth (t.year + 1) 1 = 0 := rfl
    omega
  · cases h

theorem localMicroseconds_nextDay? (h : t.nextDay? = some u) :
    u.localMicroseconds = t.localMicroseconds + 86400000000 := by
  obtain ⟨hdate, hhour, hminute, hsecond, hmicrosecond⟩ := toOrdinal_nextDay? h
  have hpos := @Calendar.one_le_toOrdinal t.year t.month _ t.inRange.2.2.1.1
  unfold localMicroseconds
  rw [hdate, hhour, hminute, hsecond, hmicrosecond]
  omega

theorem localMicroseconds_nextMinute? (h : t.nextMinute? = some u) :
    u.localMicroseconds = t.localMicroseconds + 60000000 := by
  obtain ⟨-, -, -, hhour, hminute, -⟩ := t.inRange
  unfold nextMinute? at h
  split at h
  · obtain rfl := Option.some.inj h
    unfold localMicroseconds
    dsimp only
    omega
  split at h
  · obtain rfl := Option.some.inj h
    unfold localMicroseconds
    dsimp only
    omega
  · rw [localMicroseconds_nextDay? h]
    unfold localMicroseconds
    dsimp only
    omega

theorem localMicroseconds_nextSecond? (h : t.nextSecond? = some u) :
    u.localMicroseconds = t.localMicroseconds + 1000000 := by
  obtain ⟨-, -, -, -, -, hsecond, -⟩ := t.inRange
  unfold nextSecond? at h
  split at h
  · obtain rfl := Option.some.inj h
    unfold localMicroseconds
    dsimp only
    omega
  · rw [localMicroseconds_nextMinute? h]
    unfold localMicroseconds
    dsimp only
    omega

theorem localMicroseconds_addDays? (h : t.addDays? n = some u) :
    u.localMicroseconds = t.localMicroseconds + n * 86400000000 := by
  induction n generalizing t with
  | zero =>
    rw [Option.some.inj h]
    omega
  | succ n ih =>
    obtain ⟨v, hv, hu⟩ := Option.bind_eq_some_iff.mp h
    rw [ih hu, localMicroseconds_nextDay? hv]
    omega

theorem utcOffset_addDays? (h : t.addDays? n = some u) : u.utcOffset = t.utcOffset := by
  induction n generalizing t with
  | zero => rw [Option.some.inj h]
  | succ n ih =>
    obtain ⟨v, hv, hu⟩ := Option.bind_eq_some_iff.mp h
    exact (ih hu).trans (utcOffset_nextDay? hv)

theorem localMicroseconds_addSeconds? (h : t.addSeconds? n = some u) :
    u.localMicroseconds = t.localMicroseconds + n * 1000000 := by
  induction n generalizing t with
  | zero =>
    rw [Option.some.inj h]
    omega
  | succ n ih =>
    obtain ⟨v, hv, hu⟩ := Option.bind_eq_some_iff.mp h
    rw [ih hu, localMicroseconds_nextSecond? hv]
    omega

/-- The instant of a later date-time, of which as much is aware. -/
theorem instant_afterSeconds? (h : t.afterSeconds? n = some u) :
    u.instant = t.instant + n * 1000000 ∧ u.utcOffset = t.utcOffset := by
  obtain ⟨v, hv, hu⟩ := Option.bind_eq_some_iff.mp h
  have hoffset : u.utcOffset = t.utcOffset :=
    (utcOffset_addSeconds? hu).trans (utcOffset_addDays? hv)
  refine ⟨?_, hoffset⟩
  unfold instant
  rw [hoffset, localMicroseconds_addSeconds? hu, localMicroseconds_addDays? hv]
  omega

/-- Aware date-times compare as their instants do. -/
theorem lt?_eq_some_true_iff (ht : t.utcOffset.isSome) (hu : u.utcOffset.isSome) :
    t.lt? u = some true ↔ t.instant < u.instant := by
  obtain ⟨a, ha⟩ := Option.isSome_iff_exists.mp ht
  obtain ⟨b, hb⟩ := Option.isSome_iff_exists.mp hu
  simp [lt?, instant, ha, hb]

theorem isSome_orUtc (t : DateTime) : t.orUtc.utcOffset.isSome := rfl

end LotusAdvise.DateTime
