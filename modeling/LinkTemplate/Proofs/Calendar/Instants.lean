import LinkTemplate.Calendar.Instant
import LinkTemplate.Proofs.Calendar.Days

/-!
# Instants by their fields

An instant is its timestamp, its nanosecond and its zone, and `of?` finds the instant with given
ones (`of?_eq_some_iff`). Its local date and second of the day tell the timestamp
(`timestamp_eq`), so that an instant is also what it shows locally (`eq_of_local`), and `ofLocal?`
finds the instant that shows a given date and time (`ofLocal?_eq_some_iff`).

`Shows` says what local date and time belong to a second without the conversion of `date` : the
day is counted from 1 January 1970, and the time of day is cut into hours, minutes and seconds.
-/

namespace LinkTemplate.Instant

variable {x y : Instant} {timestamp : Int} {nanosecond : Nat} {zone : Int}

/-! ## Parts -/

/-- The calendar has the second. -/
def InRange (timestamp : Int) : Prop :=
  minTimestamp ≤ timestamp ∧ timestamp ≤ maxTimestamp

instance (timestamp : Int) : Decidable (InRange timestamp) :=
  inferInstanceAs (Decidable (_ ∧ _))

theorem inRange_timestamp (x : Instant) : InRange x.timestamp :=
  ⟨x.minTimestamp_le, x.le_maxTimestamp⟩

theorem inRange_iff : InRange timestamp ↔ -8334601228800 ≤ timestamp ∧ timestamp ≤ 8210266876799 :=
  Iff.rfl

theorem yearInRange_eq_true_iff {year : Int} :
    yearInRange year = true ↔ -262143 ≤ year ∧ year ≤ 262142 := by
  rw [yearInRange, Bool.and_eq_true, decide_eq_true_iff, decide_eq_true_iff, minYear, maxYear]

theorem eq_of_parts (htimestamp : x.timestamp = y.timestamp)
    (hnanosecond : x.nanosecond = y.nanosecond) (hzone : x.zone = y.zone) : x = y := by
  cases x
  cases y
  simp_all

theorem inLeapSecond_iff : x.inLeapSecond = true ↔ nanosPerSecond ≤ x.nanosecond := by
  simp [inLeapSecond]

theorem of?_eq_some_iff :
    of? timestamp nanosecond zone = some x ↔
      x.timestamp = timestamp ∧ x.nanosecond = nanosecond ∧ x.zone = zone := by
  unfold of?
  split
  case isTrue =>
    rw [Option.some.injEq]
    constructor
    · rintro rfl
      exact ⟨rfl, rfl, rfl⟩
    · rintro ⟨rfl, rfl, rfl⟩
      rfl
  case isFalse h =>
    refine iff_of_false (by simp) ?_
    rintro ⟨rfl, rfl, rfl⟩
    exact h ⟨x.minTimestamp_le, x.le_maxTimestamp, x.nanosecond_lt, x.closes_minute, x.zone_lt⟩

theorem isSome_of?_iff (hnanosecond : nanosecond < 2 * nanosPerSecond)
    (hcloses : nanosPerSecond ≤ nanosecond → timestamp % 60 = 59) (hzone : zone.natAbs < 86400) :
    (of? timestamp nanosecond zone).isSome ↔ InRange timestamp := by
  unfold of? InRange
  split
  case isTrue h => exact iff_of_true rfl ⟨h.1, h.2.1⟩
  case isFalse h =>
    refine iff_of_false (by simp) fun hrange => ?_
    exact h ⟨hrange.1, hrange.2, hnanosecond, hcloses, hzone⟩

/-! ## Local date and time -/

theorem isValid_date (x : Instant) : x.date.IsValid :=
  Date.isValid_ofDays _

theorem toDays_date (x : Instant) : x.date.toDays = x.localTimestamp / secondsPerDay :=
  Date.toDays_ofDays _

theorem secondOfDay_eq (x : Instant) : (x.secondOfDay : Int) = x.localTimestamp % secondsPerDay :=
  Int.toNat_of_nonneg (Int.emod_nonneg _ (by decide))

theorem secondOfDay_lt (x : Instant) : x.secondOfDay < 86400 := by
  have := x.secondOfDay_eq
  rw [secondsPerDay] at this
  omega

/-- The second of another local date that has the local time of day of an instant. -/
def timestampOn (x : Instant) (date : Date) : Int :=
  date.toDays * secondsPerDay + x.secondOfDay - x.zone

theorem timestamp_eq (x : Instant) : x.timestamp = x.timestampOn x.date := by
  rw [timestampOn, toDays_date, secondOfDay_eq, Int.mul_comm, Int.mul_ediv_add_emod,
    localTimestamp, Int.add_sub_cancel]

theorem eq_of_local (hdate : x.date = y.date) (hsecond : x.secondOfDay = y.secondOfDay)
    (hnanosecond : x.nanosecond = y.nanosecond) (hzone : x.zone = y.zone) : x = y := by
  refine eq_of_parts ?_ hnanosecond hzone
  rw [x.timestamp_eq, y.timestamp_eq, timestampOn, timestampOn, hdate, hsecond, hzone]

variable {date : Date} {second : Nat}

theorem ofLocal?_eq_some_iff (hdate : date.IsValid) (hsecond : second < 86400) :
    ofLocal? date second nanosecond zone = some x ↔
      x.date = date ∧ x.secondOfDay = second ∧ x.nanosecond = nanosecond ∧ x.zone = zone := by
  rw [ofLocal?, of?_eq_some_iff]
  constructor
  · rintro ⟨htimestamp, rfl, rfl⟩
    have hlocal : x.localTimestamp = date.toDays * secondsPerDay + second := by
      rw [localTimestamp, htimestamp, Int.sub_add_cancel]
    have hdays : x.localTimestamp / secondsPerDay = date.toDays := by
      rw [hlocal, secondsPerDay]
      omega
    have hrest : (x.secondOfDay : Int) = second := by
      rw [secondOfDay_eq, hlocal, secondsPerDay]
      omega
    refine ⟨?_, Int.ofNat.inj hrest, rfl, rfl⟩
    rw [Instant.date, hdays, Date.ofDays_toDays hdate]
  · rintro ⟨rfl, rfl, rfl, rfl⟩
    exact ⟨x.timestamp_eq, rfl, rfl⟩

/-- Another local date with the time of day of an instant is one of the calendar if its second
is : a leap second still closes its minute. -/
theorem isSome_ofLocal?_iff (x : Instant) (date : Date) :
    (ofLocal? date x.secondOfDay x.nanosecond x.zone).isSome ↔ InRange (x.timestampOn date) := by
  refine isSome_of?_iff x.nanosecond_lt (fun hleap => ?_) x.zone_lt
  have hminute := x.closes_minute hleap
  rw [timestamp_eq, timestampOn] at hminute
  rw [secondsPerDay] at hminute ⊢
  omega

/-- The instant shows the local date and time of a second, counted from the start of 1 January
1970 on the local clock. -/
structure Shows (x : Instant) (second : Int) : Prop where
  date : Date.IsDay (second / secondsPerDay) x.date
  time : (3600 * x.hour + 60 * x.minute + x.second : Nat) = second % secondsPerDay
  minute_lt : x.minute < 60
  second_lt : x.second < 60

theorem shows_localTimestamp (x : Instant) : x.Shows x.localTimestamp where
  date := Date.isDay_iff.mpr rfl
  time := by
    rw [← secondOfDay_eq]
    unfold hour minute second
    omega
  minute_lt := Nat.mod_lt _ (by decide)
  second_lt := Nat.mod_lt _ (by decide)

end LinkTemplate.Instant
