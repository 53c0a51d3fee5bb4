import LinkTemplate.Calendar.Offset
import LinkTemplate.Proofs.Calendar.Instants

/-!
# Shifts by months and years

A shift by months moves the local date along the line of all months and keeps the time of day,
the nanosecond and the zone (`eq_of_addMonths?`). It exists exactly if the calendar has the year
and the second that it leads to (`isSome_addMonths?_iff`); the guards on the number of months
change nothing, because that many months lead out of the calendar from everywhere
(`shift?_months`, `shift?_years`).

The shift back ends in the month of the start, on the day that the month in between left
(`month_shift_is_clamped`).
-/

namespace LinkTemplate

/-! ## Dates -/

namespace Date

variable {d : Date} {n : Int}

theorem monthIndex_addMonths (d : Date) (n : Int) :
    (d.addMonths n).monthIndex = d.monthIndex + n := by
  simp only [addMonths]
  generalize d.monthIndex + n = index
  simp only [monthIndex]
  omega

theorem IsValid.addMonths (h : d.IsValid) (n : Int) : (d.addMonths n).IsValid := by
  obtain ⟨-, -, hpos, -⟩ := h
  have hlength := le_daysInMonth (d.addMonths n).year (d.addMonths n).month
  refine ⟨?_, ?_, ?_, Nat.min_le_right _ _⟩
  · simp only [Date.addMonths]
    omega
  · simp only [Date.addMonths]
    omega
  · exact Nat.le_min.mpr ⟨hpos, le_trans (by decide) hlength⟩

theorem IsValid.addMonths_eq_iff (h : d.IsValid) {d' : Date} :
    d.addMonths n = d' ↔ d'.IsValid ∧ d'.monthIndex = d.monthIndex + n ∧
      d'.day = min d.day (daysInMonth d'.year d'.month) := by
  constructor
  · rintro rfl
    exact ⟨h.addMonths n, monthIndex_addMonths d n, rfl⟩
  · rintro ⟨h', hindex, hday⟩
    have hsame : (d.addMonths n).monthIndex = d'.monthIndex := by
      rw [monthIndex_addMonths, hindex]
    refine (h.addMonths n).eq_of_monthIndex h' hsame ?_
    have hlength := (h.addMonths n).monthLength_eq
    rw [hsame, h'.monthLength_eq] at hlength
    rw [hday, hlength]
    rfl

theorem IsValid.addMonths_zero (h : d.IsValid) : d.addMonths 0 = d :=
  h.addMonths_eq_iff.mpr ⟨h, by omega, (Nat.min_eq_left h.2.2.2).symm⟩

/-- Back in the month of the start, the day is the one that the month in between left. -/
theorem IsValid.addMonths_neg (h : d.IsValid) (n : Int) :
    (d.addMonths n).addMonths (-n) = { d with day := (d.addMonths n).day } := by
  have hle : (d.addMonths n).day ≤ daysInMonth d.year d.month :=
    (Nat.min_le_left _ _).trans h.2.2.2
  refine (h.addMonths n).addMonths_eq_iff.mpr
    ⟨⟨h.1, h.2.1, (h.addMonths n).2.2.1, hle⟩, ?_, (Nat.min_eq_left hle).symm⟩
  rw [monthIndex_addMonths, Int.add_neg_cancel_right]
  rfl

theorem yearInRange_iff (h : d.IsValid) :
    Instant.yearInRange d.year = true ↔
      -3145716 ≤ d.monthIndex ∧ d.monthIndex < 3145716 := by
  obtain ⟨h1, h12, -⟩ := h
  rw [Instant.yearInRange_eq_true_iff, monthIndex]
  omega

end Date

namespace Instant

variable {x y : Instant} {n : Int}

/-! ## Bounds of the calendar -/

/-- The local date is at most a day outside the years of the calendar. -/
theorem monthIndex_bounds (x : Instant) :
    -3145717 ≤ x.date.monthIndex ∧ x.date.monthIndex ≤ 3145716 := by
  have hrange := inRange_iff.mp x.inRange_timestamp
  have hzone := x.zone_lt
  have hdays : -96465293 ≤ x.date.toDays ∧ x.date.toDays ≤ 95026237 := by
    rw [toDays_date, localTimestamp, secondsPerDay]
    omega
  have hvalid := x.isValid_date
  have hfirst : Date.monthStart (-3145717) = -96465323 := by decide
  have hlast : Date.monthStart 3145717 = 95026268 := by decide
  constructor
  · by_contra hlt
    have hle : Date.monthStart (x.date.monthIndex + 1) ≤ Date.monthStart (-3145717) :=
      Date.monthStart_le (by omega)
    have := hvalid.toDays_lt_monthStart
    omega
  · by_contra hlt
    have hle : Date.monthStart 3145717 ≤ Date.monthStart x.date.monthIndex :=
      Date.monthStart_le (by omega)
    have := hvalid.toDays_eq
    have := hvalid.2.2.1
    omega

/-- A time of day on a date of the calendar behind its first day is not before the calendar. -/
theorem minTimestamp_le_timestampOn (x : Instant) {date : Date} (h : date.IsValid)
    (hyear : yearInRange date.year = true) (hday : 2 ≤ date.day) :
    minTimestamp ≤ x.timestampOn date := by
  have hfirst : Date.monthStart (-3145716) = -96465292 := by decide
  have hmin : minTimestamp = -96465292 * 86400 := by decide
  have hindex := ((Date.yearInRange_iff h).mp hyear).1
  have hle := Date.monthStart_le hindex
  have hdays := h.toDays_eq
  have hzone := x.zone_lt
  rw [hmin, timestampOn, secondsPerDay]
  omega

/-! ## Shifts by months -/

theorem addMonths?_zero (x : Instant) : x.addMonths? 0 = some x := rfl

/-- The number of months is no limit : the calendar has fewer. -/
theorem addMonths?_of_ne_zero (hn : n ≠ 0) (x : Instant) :
    x.addMonths? n =
      if yearInRange (x.date.addMonths n).year then
        ofLocal? (x.date.addMonths n) x.secondOfDay x.nanosecond x.zone
      else none := by
  simp only [addMonths?, if_neg hn]
  refine if_congr (and_iff_right_of_imp fun hyear => ?_) rfl rfl
  have hindex := (Date.yearInRange_iff (x.isValid_date.addMonths n)).mp hyear
  have := x.monthIndex_bounds
  rw [Date.monthIndex_addMonths] at hindex
  rw [maxMonths]
  omega

theorem isSome_addMonths?_iff :
    (x.addMonths? n).isSome ↔
      n = 0 ∨ yearInRange (x.date.addMonths n).year = true ∧
        InRange (x.timestampOn (x.date.addMonths n)) := by
  by_cases hn : n = 0
  · simp [hn, addMonths?_zero]
  · rw [addMonths?_of_ne_zero hn, ← isSome_ofLocal?_iff]
    split <;> simp_all

/-- A shift by months moves the local date and keeps all else. -/
theorem eq_of_addMonths? (h : x.addMonths? n = some y) :
    y.date = x.date.addMonths n ∧ y.secondOfDay = x.secondOfDay ∧ y.nanosecond = x.nanosecond ∧
      y.zone = x.zone := by
  by_cases hn : n = 0
  · obtain rfl : x = y := by simpa [hn, addMonths?_zero] using h
    rw [hn, x.isValid_date.addMonths_zero]
    exact ⟨rfl, rfl, rfl, rfl⟩
  · rw [addMonths?_of_ne_zero hn] at h
    split at h
    case isTrue =>
      exact (ofLocal?_eq_some_iff (x.isValid_date.addMonths n) x.secondOfDay_lt).mp h
    case isFalse => cases h

/-! ## Guards on the number of months -/

theorem addMonths?_eq_none (hn : maxMonths < n.natAbs) (x : Instant) : x.addMonths? n = none := by
  have hne : n ≠ 0 := by
    rintro rfl
    exact absurd hn (by decide)
  simp only [addMonths?]
  rw [if_neg hne, if_neg fun h => absurd h.1 (Nat.not_le.mpr hn)]

theorem shiftMonths?_eq (x : Instant) (back : Bool) (months : Nat) :
    x.shiftMonths? back months = x.addMonths? (if back then -months else months) := by
  unfold shiftMonths?
  split
  case isTrue => rfl
  case isFalse h =>
    rw [halfWord] at h
    refine (addMonths?_eq_none ?_ x).symm
    rw [maxMonths]
    split <;> omega

theorem shift?_months (x : Instant) (n : Int) : x.shift? ⟨n, .months⟩ = x.addMonths? n := by
  have hsigned : (if decide (n < 0) = true then -(n.natAbs : Int) else n.natAbs) = n := by
    simp only [decide_eq_true_eq]
    split <;> omega
  rw [shift?, shiftMonths?_eq, hsigned]

theorem shift?_years (x : Instant) (n : Int) : x.shift? ⟨n, .years⟩ = x.addMonths? (12 * n) := by
  have hsigned : (if decide (n < 0) = true then -((n.natAbs * 12 : Nat) : Int)
      else (n.natAbs * 12 : Nat)) = 12 * n := by
    simp only [decide_eq_true_eq]
    split <;> omega
  simp only [shift?]
  split
  case isTrue => rw [shiftMonths?_eq, hsigned]
  case isFalse h =>
    rw [word] at h
    refine (addMonths?_eq_none ?_ x).symm
    rw [maxMonths]
    omega

/-! ## Clamped shifts -/

theorem day_of_addMonths? (h : x.addMonths? n = some y) :
    y.date.day = min x.date.day (Date.daysInMonth y.date.year y.date.month) := by
  rw [(eq_of_addMonths? h).1]
  rfl

theorem timestampOn_congr (hsecond : y.secondOfDay = x.secondOfDay) (hzone : y.zone = x.zone)
    (date : Date) : y.timestampOn date = x.timestampOn date := by
  rw [timestampOn, timestampOn, hsecond, hzone]

/-- An earlier day of the month of an instant is in the calendar, unless it is the first. -/
theorem inRange_timestampOn (hyear : yearInRange x.date.year = true) {day : Nat} (hday : 2 ≤ day)
    (hle : day ≤ x.date.day) : InRange (x.timestampOn { x.date with day }) := by
  have hvalid : ({ x.date with day } : Date).IsValid :=
    ⟨x.isValid_date.1, x.isValid_date.2.1, Nat.one_le_of_lt hday, hle.trans x.isValid_date.2.2.2⟩
  refine ⟨x.minTimestamp_le_timestampOn hvalid hyear hday, le_trans ?_ x.le_maxTimestamp⟩
  have hdays : ({ x.date with day } : Date).toDays ≤ x.date.toDays := by
    rw [hvalid.toDays_eq, x.isValid_date.toDays_eq]
    exact Int.add_le_add_left (by simp only; omega) _
  rw [x.timestamp_eq, timestampOn, timestampOn, secondsPerDay]
  omega

/-- The shift back from where a shift led to ends in the month of the start, on the day that the
month in between left. -/
theorem exists_addMonths?_neg (hyear : yearInRange x.date.year = true)
    (h : x.addMonths? n = some y) :
    ∃ z, y.addMonths? (-n) = some z ∧ z.date = { x.date with day := y.date.day } ∧
      z.secondOfDay = x.secondOfDay ∧ z.nanosecond = x.nanosecond ∧ z.zone = x.zone := by
  obtain ⟨hdate, hsecond, hnanosecond, hzone⟩ := eq_of_addMonths? h
  have hback : y.date.addMonths (-n) = { x.date with day := y.date.day } := by
    rw [hdate, x.isValid_date.addMonths_neg]
  have hrange : InRange (y.timestampOn (y.date.addMonths (-n))) := by
    rw [timestampOn_congr hsecond hzone, hback]
    have hday := day_of_addMonths? h
    have hlength := Date.le_daysInMonth y.date.year y.date.month
    by_cases hsame : y.date.day = x.date.day
    · rw [hsame]
      exact x.timestamp_eq ▸ x.inRange_timestamp
    · exact inRange_timestampOn hyear (by omega) (by omega)
  have hsome : (y.addMonths? (-n)).isSome :=
    isSome_addMonths?_iff.mpr (.inr ⟨by rw [hback]; exact hyear, hrange⟩)
  obtain ⟨z, hz⟩ := Option.isSome_iff_exists.mp hsome
  obtain ⟨hdate', hsecond', hnanosecond', hzone'⟩ := eq_of_addMonths? hz
  exact ⟨z, hz, hdate'.trans hback, hsecond'.trans hsecond, hnanosecond'.trans hnanosecond,
    hzone'.trans hzone⟩

/-- A shift by months leads to the date with the shifted number of its month, on the same day or
on the last day of a shorter month, and exists exactly if it is by no months or the calendar has
the year of that date and the second with the same local time on it; time of day, nanosecond,
which may lie in a leap second, and zone are kept. A shift by years is one by twelve times as many
months, unless their number does not fit into 64 bits. If the start has a local year of the
calendar, as every time read has (`Rfc3339.yearInRange_of_read`), the shift back exists and ends in
the month of the start, on the day that the month in between left : at the start, if that is one of
the first 28 days. -/
theorem month_shift_is_clamped (x : Instant) :
    (∀ n, ∃ d : Date, d.IsValid ∧ d.monthIndex = x.date.monthIndex + n ∧
      d.day = min x.date.day (Date.daysInMonth d.year d.month) ∧
      ((x.shift? ⟨n, .months⟩).isSome ↔
        n = 0 ∨ yearInRange d.year = true ∧ InRange (x.timestampOn d)) ∧
      ∀ y, x.shift? ⟨n, .months⟩ = some y →
        y.date = d ∧ y.secondOfDay = x.secondOfDay ∧ y.nanosecond = x.nanosecond ∧
          y.zone = x.zone) ∧
    (∀ n, x.shift? ⟨n, .years⟩ =
      if Offset.FitsWord (12 * n) then x.shift? ⟨12 * n, .months⟩ else none) ∧
    (yearInRange x.date.year = true → ∀ n y, x.shift? ⟨n, .months⟩ = some y →
      ∃ z, y.shift? ⟨-n, .months⟩ = some z ∧
        z.date = { x.date with
          day := min x.date.day (Date.daysInMonth y.date.year y.date.month) } ∧
        z.secondOfDay = x.secondOfDay ∧ z.nanosecond = x.nanosecond ∧ z.zone = x.zone ∧
        (x.date.day ≤ 28 → z = x)) := by
  refine ⟨fun n => ⟨x.date.addMonths n, x.isValid_date.addMonths n, Date.monthIndex_addMonths _ n,
    rfl, ?_, fun y h => ?_⟩, fun n => ?_, fun hyear n y h => ?_⟩
  · rw [shift?_months, isSome_addMonths?_iff]
  · rw [shift?_months] at h
    exact eq_of_addMonths? h
  · rw [shift?_years, shift?_months]
    split
    case isTrue => rfl
    case isFalse hword =>
      refine addMonths?_eq_none ?_ x
      rw [Offset.FitsWord, Offset.maxAmount] at hword
      rw [maxMonths]
      omega
  · rw [shift?_months] at h
    obtain ⟨z, hz, hdate, hsecond, hnanosecond, hzone⟩ := exists_addMonths?_neg hyear h
    have hday := day_of_addMonths? h
    rw [← hday]
    refine ⟨z, by rw [shift?_months, hz], hdate, hsecond, hnanosecond, hzone, fun h28 => ?_⟩
    have hlength := Date.le_daysInMonth y.date.year y.date.month
    have hsame : y.date.day = x.date.day := by omega
    refine eq_of_local ?_ hsecond hnanosecond hzone
    rw [hdate, hsame]

/-- Two months behind a leap second on 31 December comes 28 February, still in a leap second, and
two months back from there 28 December; the months of the smallest amount of years do not fit into
64 bits. -/
theorem month_shift_is_clamped_leap_second :
    let x : Instant := ⟨1483228799, 1500000000, 0, by decide, by decide, by decide, by decide,
      by decide⟩
    let y : Instant := ⟨1488326399, 1500000000, 0, by decide, by decide, by decide, by decide,
      by decide⟩
    yearInRange x.date.year = true ∧ x.shift? ⟨2, .months⟩ = some y ∧ y.date = ⟨2017, 2, 28⟩ ∧
      (∃ z, y.shift? ⟨-2, .months⟩ = some z ∧ z.date = ⟨2016, 12, 28⟩ ∧
        z.secondOfDay = 86399 ∧ z.nanosecond = 1500000000) ∧
      x.shift? ⟨-9223372036854775808, .years⟩ = none := by
  intro x y
  have hyear : yearInRange x.date.year = true := by decide
  have hshift : x.shift? ⟨2, .months⟩ = some y := by decide
  obtain ⟨-, hyears, hback⟩ := month_shift_is_clamped x
  obtain ⟨z, hz, hdate, hsecond, hnanosecond, -, -⟩ := hback hyear 2 y hshift
  refine ⟨hyear, hshift, by decide, ⟨z, hz, ?_, ?_, hnanosecond⟩, ?_⟩
  · rw [hdate]
    decide
  · rw [hsecond]
    decide
  · rw [hyears]
    decide

end Instant

end LinkTemplate
