import LinkTemplate.Proofs.Calendar.Durations
import LinkTemplate.Proofs.Calendar.Months

/-!
# Shifts in order

Instants are in order by date, second of the day and nanosecond in UTC (`Earlier`), which is the
order of their timestamps and nanoseconds (`earlier_iff`).

Shifts of one instant `Ascends` : by a larger amount they lead to a later instant, and between two
amounts that lead to an instant all do. That is shown once for seconds, where a leap second is
left in different ways forward and back, and once for months, where a date may be moved to the end
of a shorter month. Each unit is so many seconds or months (`shifts_ascend`).
-/

namespace LinkTemplate

/-! ## Order of dates and instants -/

/-- Dates by year, month and day. -/
def Date.Before (d d' : Date) : Prop :=
  d.year < d'.year ∨ d.year = d'.year ∧ (d.month < d'.month ∨ d.month = d'.month ∧ d.day < d'.day)

theorem Date.before_iff {d d' : Date} (h : d.IsValid) (h' : d'.IsValid) :
    d.Before d' ↔ d.toDays < d'.toDays := by
  rw [toDays_lt_iff h h']
  obtain ⟨h1, h12, -⟩ := h
  obtain ⟨h1', h12', -⟩ := h'
  unfold Before monthIndex
  omega

namespace Instant

variable {x y : Instant}

/-- The date in UTC. -/
def utcDate (x : Instant) : Date :=
  Date.ofDays (x.timestamp / secondsPerDay)

/-- The seconds since midnight in UTC. -/
def utcSecondOfDay (x : Instant) : Int :=
  x.timestamp % secondsPerDay

/-- Instants by date, second of the day and nanosecond in UTC. -/
def Earlier (x y : Instant) : Prop :=
  x.utcDate.Before y.utcDate ∨ x.utcDate = y.utcDate ∧
    (x.utcSecondOfDay < y.utcSecondOfDay ∨
      x.utcSecondOfDay = y.utcSecondOfDay ∧ x.nanosecond < y.nanosecond)

theorem earlier_iff :
    x.Earlier y ↔
      x.timestamp < y.timestamp ∨ x.timestamp = y.timestamp ∧ x.nanosecond < y.nanosecond := by
  have heq : x.utcDate = y.utcDate ↔ x.timestamp / secondsPerDay = y.timestamp / secondsPerDay := by
    rw [utcDate, Date.ofDays_eq_iff, utcDate, Date.toDays_ofDays]
    exact ⟨fun h => h.2.symm, fun h => ⟨Date.isValid_ofDays _, h.symm⟩⟩
  have hlt : x.utcDate.Before y.utcDate ↔
      x.timestamp / secondsPerDay < y.timestamp / secondsPerDay := by
    rw [utcDate, utcDate, Date.before_iff (Date.isValid_ofDays _) (Date.isValid_ofDays _),
      Date.toDays_ofDays, Date.toDays_ofDays]
  rw [Earlier, heq, hlt, utcSecondOfDay, utcSecondOfDay, secondsPerDay]
  omega

/-! ## Ascending shifts -/

/-- Larger numbers lead to later instants, and no number between two that lead to an instant is
left out. -/
structure Ascends (f : Int → Option Instant) : Prop where
  earlier : ∀ {a b : Int} {y z : Instant}, a < b → f a = some y → f b = some z → y.Earlier z
  isSome_between : ∀ {a b c : Int}, a ≤ c → c ≤ b → (f a).isSome → (f b).isSome → (f c).isSome

theorem Ascends.mul {f : Int → Option Instant} (h : Ascends f) {size : Int} (hsize : 0 < size) :
    Ascends fun n => f (size * n) where
  earlier hab := h.earlier (Int.mul_lt_mul_of_pos_left hab hsize)
  isSome_between hac hcb := h.isSome_between (Int.mul_le_mul_of_nonneg_left hac hsize.le)
    (Int.mul_le_mul_of_nonneg_left hcb hsize.le)

/-- Two shifts that land on the same second, one of them by no seconds from a leap second, are told
apart by the nanosecond. -/
theorem landing_lt (x : Instant) {a b : Int} (h : a < b) :
    x.landing a < x.landing b ∨
      x.landing a = x.landing b ∧ x.keptNanosecond a < x.keptNanosecond b := by
  have hlt := x.nanosecond_lt
  have hpos : 0 < nanosPerSecond := by decide
  simp only [landing, keptNanosecond, inLeapSecond_iff]
  split_ifs <;> omega

theorem landing_le (x : Instant) {a b : Int} (h : a ≤ b) : x.landing a ≤ x.landing b := by
  rcases h.lt_or_eq with hlt | rfl
  · have := x.landing_lt hlt
    omega
  · exact le_rfl

theorem ascends_addSeconds? (x : Instant) : Ascends x.addSeconds? where
  earlier hab hy hz := by
    obtain ⟨hy, hy', -⟩ := addSeconds?_eq_some_iff.mp hy
    obtain ⟨hz, hz', -⟩ := addSeconds?_eq_some_iff.mp hz
    rw [earlier_iff, hy, hy', hz, hz']
    exact x.landing_lt hab
  isSome_between hac hcb ha hb := by
    rw [isSome_addSeconds?_iff] at ha hb ⊢
    exact ⟨ha.1.trans (x.landing_le hac), (x.landing_le hcb).trans hb.2⟩

theorem timestampOn_lt (x : Instant) {a b : Int} (h : a < b) :
    x.timestampOn (x.date.addMonths a) < x.timestampOn (x.date.addMonths b) := by
  have hdays := (x.isValid_date.addMonths a).toDays_lt_of_monthIndex_lt
    (x.isValid_date.addMonths b) (by simpa only [Date.monthIndex_addMonths] using by omega)
  rw [timestampOn, timestampOn, secondsPerDay]
  omega

theorem timestamp_of_addMonths? {n : Int} (h : x.addMonths? n = some y) :
    y.timestamp = x.timestampOn (x.date.addMonths n) := by
  obtain ⟨hdate, hsecond, -, hzone⟩ := eq_of_addMonths? h
  rw [y.timestamp_eq, timestampOn_congr hsecond hzone, hdate]

/-- A local date is at most a day outside the years of the calendar, so that the months on the way
to a date of the calendar are in it also if the start is not. -/
theorem yearInRange_between {a b c : Int} (hac : a < c) (hcb : c < b)
    (ha : (x.addMonths? a).isSome) (hb : (x.addMonths? b).isSome) :
    yearInRange (x.date.addMonths c).year = true := by
  have hbounds := x.monthIndex_bounds
  rw [isSome_addMonths?_iff, Date.yearInRange_iff (x.isValid_date.addMonths _),
    Date.monthIndex_addMonths] at ha hb
  rw [Date.yearInRange_iff (x.isValid_date.addMonths _), Date.monthIndex_addMonths]
  omega

theorem ascends_addMonths? (x : Instant) : Ascends x.addMonths? where
  earlier hab hy hz := by
    rw [earlier_iff, timestamp_of_addMonths? hy, timestamp_of_addMonths? hz]
    exact .inl (x.timestampOn_lt hab)
  isSome_between := by
    intro a b c hac hcb ha hb
    rcases hac.eq_or_lt with rfl | hac
    · exact ha
    rcases hcb.eq_or_lt with rfl | hcb
    · exact hb
    obtain ⟨y, hy⟩ := Option.isSome_iff_exists.mp ha
    obtain ⟨z, hz⟩ := Option.isSome_iff_exists.mp hb
    have hy' := timestamp_of_addMonths? hy ▸ y.minTimestamp_le
    have hz' := timestamp_of_addMonths? hz ▸ z.le_maxTimestamp
    exact isSome_addMonths?_iff.mpr (.inr ⟨yearInRange_between hac hcb ha hb,
      hy'.trans (x.timestampOn_lt hac).le, (x.timestampOn_lt hcb).le.trans hz'⟩)

/-! ## Shifts by a unit -/

/-- Every unit is so many seconds or so many months. -/
theorem exists_shift?_eq (u : OffsetUnit) :
    ∃ size : Int, 0 < size ∧
      ((∀ (x : Instant) n, x.shift? ⟨n, u⟩ = x.addSeconds? (size * n)) ∨
        ∀ (x : Instant) n, x.shift? ⟨n, u⟩ = x.addMonths? (size * n)) := by
  cases u with
  | minutes => exact ⟨60, by decide, .inl (shift?_eq_addSeconds? rfl)⟩
  | hours => exact ⟨3600, by decide, .inl (shift?_eq_addSeconds? rfl)⟩
  | days => exact ⟨86400, by decide, .inl (shift?_eq_addSeconds? rfl)⟩
  | months => exact ⟨1, by decide, .inr fun x n => by rw [shift?_months, Int.one_mul]⟩
  | years => exact ⟨12, by decide, .inr shift?_years⟩

theorem ascends_shift? (x : Instant) (u : OffsetUnit) : Ascends fun n => x.shift? ⟨n, u⟩ := by
  obtain ⟨size, hsize, h | h⟩ := exists_shift?_eq u
  · simp only [h]
    exact x.ascends_addSeconds?.mul hsize
  · simp only [h]
    exact x.ascends_addMonths?.mul hsize

theorem shift?_zero (x : Instant) (u : OffsetUnit) : x.shift? ⟨0, u⟩ = some x := by
  obtain ⟨size, -, h | h⟩ := exists_shift?_eq u
  · rw [h, Int.mul_zero, addSeconds?_zero]
  · rw [h, Int.mul_zero, addMonths?_zero]

/-- Shifts of one instant by amounts of one unit are in the order of the amounts : of two that
exist, the one by the larger amount leads to a later instant, and all those in between exist; the
one by nothing leads to the instant itself. -/
theorem shifts_ascend (x : Instant) (u : OffsetUnit) :
    (∀ a b y z, a < b → x.shift? ⟨a, u⟩ = some y → x.shift? ⟨b, u⟩ = some z →
      y.Earlier z ∧ ∀ c, a ≤ c → c ≤ b → (x.shift? ⟨c, u⟩).isSome) ∧
    x.shift? ⟨0, u⟩ = some x := by
  refine ⟨fun a b y z hab hy hz => ?_, x.shift?_zero u⟩
  have h := x.ascends_shift? u
  refine ⟨h.earlier hab hy hz, fun c hac hcb => ?_⟩
  exact h.isSome_between hac hcb (Option.isSome_of_eq_some hy) (Option.isSome_of_eq_some hz)

/-- An hour back from a leap second, which starts behind it, comes before an hour forward, which
drops it. -/
theorem shifts_ascend_leap_second :
    let x : Instant := ⟨1483228799, 1500000000, 0, by decide, by decide, by decide, by decide,
      by decide⟩
    let y : Instant := ⟨1483225200, 500000000, 0, by decide, by decide, by decide, by decide,
      by decide⟩
    let z : Instant := ⟨1483232399, 500000000, 0, by decide, by decide, by decide, by decide,
      by decide⟩
    x.shift? ⟨-1, .hours⟩ = some y ∧ x.shift? ⟨1, .hours⟩ = some z ∧ y.Earlier z ∧
      x.shift? ⟨0, .hours⟩ = some x := by
  intro x y z
  have hback : x.shift? ⟨-1, .hours⟩ = some y := by decide
  have hforward : x.shift? ⟨1, .hours⟩ = some z := by decide
  obtain ⟨hascend, hzero⟩ := shifts_ascend x .hours
  exact ⟨hback, hforward, (hascend (-1) 1 y z (by decide) hback hforward).1, hzero⟩

end Instant

end LinkTemplate
