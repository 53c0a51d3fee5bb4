import LinkTemplate.Calendar.Date
import Mathlib.Order.Monotone.Basic
import Mathlib.Tactic.IntervalCases

/-!
# Days of the calendar

`toDays` and `ofDays` are inverse to each other on the dates that exist, and keep their order.
The months stand on one line, each beginning where the one before ends (`monthStart_add_one`), and
a date is its month and its day in it; so dates are in the order of their numbers
(`toDays_lt_iff`). `yearOfDay` and the rule for the months cut a number into year, month and day
(`isValid_ofDays`, `toDays_ofDays`).

`IsDay` counts days one at a time from 1 January 1970, by the lengths of the months alone. It
finds the same dates as `ofDays` (`isDay_iff`).
-/

namespace LinkTemplate.Date

variable {d d' : Date} {year : Int}

/-! ## Years -/

theorem isLeapYear_iff :
    isLeapYear year = true ↔ year % 4 = 0 ∧ (year % 100 ≠ 0 ∨ year % 400 = 0) := by
  simp [isLeapYear]

theorem daysInMonth_february :
    daysInMonth year 2 = 29 ∧ (year % 4 = 0 ∧ (year % 100 ≠ 0 ∨ year % 400 = 0)) ∨
      daysInMonth year 2 = 28 ∧ ¬(year % 4 = 0 ∧ (year % 100 ≠ 0 ∨ year % 400 = 0)) := by
  rw [← isLeapYear_iff]
  by_cases h : isLeapYear year = true <;> simp [daysInMonth, h]

theorem le_daysInMonth (year : Int) (month : Nat) : 28 ≤ daysInMonth year month := by
  unfold daysInMonth
  split <;> try split
  all_goals decide

theorem daysInMonth_le (year : Int) (month : Nat) : daysInMonth year month ≤ 31 := by
  unfold daysInMonth
  split <;> try split
  all_goals decide

/-- A year that starts in March ends in the February of the year behind it. -/
theorem daysBeforeYear_add_one (year : Int) :
    daysBeforeYear (year + 1) = daysBeforeYear year + 337 + daysInMonth (year + 1) 2 := by
  have := @daysInMonth_february (year + 1)
  unfold daysBeforeYear
  omega

/-- `yearOfDay` finds the year that holds a day. The last span of each size is the one with the
leap day at its end, or without one. -/
theorem yearOfDay_spec (day : Int) :
    daysBeforeYear (yearOfDay day) ≤ day ∧ day < daysBeforeYear (yearOfDay day + 1) := by
  unfold yearOfDay
  extract_lets cycle inCycle century inCentury leap year
  have hcycle : day = 146097 * cycle + inCycle ∧ 0 ≤ inCycle ∧ inCycle < 146097 := by omega
  have hcentury : inCycle = 36524 * century + inCentury ∧ 0 ≤ century ∧ century ≤ 3 ∧
      0 ≤ inCentury ∧ (inCentury < 36524 ∨ century = 3 ∧ inCentury = 36524) := by omega
  have hleap : inCentury = 1461 * leap + inCentury % 1461 ∧ 0 ≤ leap ∧ leap ≤ 24 := by omega
  have hyear : 0 ≤ year ∧ year ≤ 3 ∧ 365 * year ≤ inCentury % 1461 ∧
      (inCentury % 1461 < 365 * year + 365 ∨ year = 3 ∧ inCentury % 1461 = 1460) := by omega
  have h4 : (400 * cycle + 100 * century + 4 * leap + year) / 4 =
      100 * cycle + 25 * century + leap := by omega
  have h100 : (400 * cycle + 100 * century + 4 * leap + year) / 100 = 4 * cycle + century := by
    omega
  have h400 : (400 * cycle + 100 * century + 4 * leap + year) / 400 = cycle := by omega
  have := @daysInMonth_february (400 * cycle + 100 * century + 4 * leap + year + 1)
  rw [daysBeforeYear_add_one]
  unfold daysBeforeYear
  omega

/-! ## Months -/

/-- The number of days of the month at an index. -/
def monthLength (index : Int) : Nat :=
  daysInMonth (index / 12) (index % 12 + 1).toNat

/-- The number of the first day of the month at an index. -/
def monthStart (index : Int) : Int :=
  toDays ⟨index / 12, (index % 12 + 1).toNat, 1⟩

theorem monthStart_add_one (index : Int) :
    monthStart (index + 1) = monthStart index + monthLength index := by
  obtain ⟨year, month, hpos, hlt, rfl⟩ :
      ∃ year month : Int, 0 ≤ month ∧ month < 12 ∧ index = 12 * year + month :=
    ⟨index / 12, index % 12, by omega, by omega, by omega⟩
  have hyear := daysBeforeYear_add_one (year - 1)
  rw [Int.sub_add_cancel] at hyear
  unfold monthStart monthLength toDays
  rw [show (12 * year + month) / 12 = year by omega,
    show (12 * year + month) % 12 = month by omega]
  -- February has its length from the year, and December is followed by another year.
  rcases (by omega : month = 1 ∨ month = 11 ∨ month ≠ 1 ∧ month < 11) with rfl | rfl | ⟨hne, hlt⟩
  · rw [show (12 * year + 1 + 1) / 12 = year by omega,
      show (12 * year + 1 + 1) % 12 = 2 by omega]
    simp [daysBeforeMonth]
    omega
  · rw [show (12 * year + 11 + 1) / 12 = year + 1 by omega,
      show (12 * year + 11 + 1) % 12 = 0 by omega]
    simp [daysBeforeMonth, daysInMonth]
    omega
  · rw [show (12 * year + month + 1) / 12 = year by omega,
      show (12 * year + month + 1) % 12 = month + 1 by omega]
    interval_cases month <;> simp [daysBeforeMonth, daysInMonth] at hne ⊢ <;> omega

theorem monthStart_le {index index' : Int} (h : index ≤ index') :
    monthStart index ≤ monthStart index' := by
  refine monotone_int_of_le_succ (fun index => ?_) h
  rw [monthStart_add_one]
  omega

/-! ## Dates in order -/

theorem IsValid.monthIndex_div (h : d.IsValid) : d.monthIndex / 12 = d.year := by
  obtain ⟨h1, h12, -⟩ := h
  unfold monthIndex
  omega

theorem IsValid.monthIndex_mod (h : d.IsValid) : (d.monthIndex % 12 + 1).toNat = d.month := by
  obtain ⟨h1, h12, -⟩ := h
  unfold monthIndex
  omega

/-- A date is its month and its day in it. -/
theorem IsValid.eq_of_monthIndex (h : d.IsValid) (h' : d'.IsValid)
    (hindex : d.monthIndex = d'.monthIndex) (hday : d.day = d'.day) : d = d' := by
  have hyear : d.year = d'.year := by rw [← h.monthIndex_div, hindex, h'.monthIndex_div]
  have hmonth : d.month = d'.month := by rw [← h.monthIndex_mod, hindex, h'.monthIndex_mod]
  cases d
  cases d'
  simp_all

theorem IsValid.monthLength_eq (h : d.IsValid) :
    monthLength d.monthIndex = daysInMonth d.year d.month := by
  rw [monthLength, h.monthIndex_div, h.monthIndex_mod]

theorem IsValid.toDays_eq (h : d.IsValid) : d.toDays = monthStart d.monthIndex + (d.day - 1) := by
  rw [monthStart, h.monthIndex_div, h.monthIndex_mod]
  simp only [toDays]
  omega

theorem IsValid.toDays_lt_monthStart (h : d.IsValid) :
    d.toDays < monthStart (d.monthIndex + 1) := by
  rw [h.toDays_eq, monthStart_add_one, h.monthLength_eq]
  obtain ⟨-, -, h1, hle⟩ := h
  omega

theorem IsValid.toDays_lt_of_monthIndex_lt (h : d.IsValid) (h' : d'.IsValid)
    (hlt : d.monthIndex < d'.monthIndex) : d.toDays < d'.toDays := by
  have hstart : monthStart (d.monthIndex + 1) ≤ monthStart d'.monthIndex := monthStart_le hlt
  have := h.toDays_lt_monthStart
  have := h'.toDays_eq
  obtain ⟨-, -, h1, -⟩ := h'
  omega

theorem toDays_lt_iff (h : d.IsValid) (h' : d'.IsValid) :
    d.toDays < d'.toDays ↔
      d.monthIndex < d'.monthIndex ∨ d.monthIndex = d'.monthIndex ∧ d.day < d'.day := by
  rcases lt_trichotomy d.monthIndex d'.monthIndex with hlt | heq | hgt
  · have := h.toDays_lt_of_monthIndex_lt h' hlt
    omega
  · rw [h.toDays_eq, h'.toDays_eq, heq]
    omega
  · have := h'.toDays_lt_of_monthIndex_lt h hgt
    omega

theorem eq_of_toDays_eq (h : d.IsValid) (h' : d'.IsValid) (heq : d.toDays = d'.toDays) :
    d = d' := by
  have hlt := toDays_lt_iff h h'
  have hgt := toDays_lt_iff h' h
  exact h.eq_of_monthIndex h' (by omega) (by omega)

/-! ## Dates of numbers -/

theorem ofDays_spec (n : Int) : (ofDays n).IsValid ∧ (ofDays n).toDays = n := by
  obtain ⟨hle, hlt⟩ := yearOfDay_spec (n + epoch)
  rw [daysBeforeYear_add_one] at hlt
  simp only [ofDays]
  generalize yearOfDay (n + epoch) = year at hle hlt ⊢
  generalize hinYear : n + epoch - daysBeforeYear year = inYear
  obtain rfl : n = daysBeforeYear year + inYear - epoch := by omega
  have := @daysInMonth_february (year + 1)
  generalize hmonth : (5 * inYear + 2) / 153 = month
  -- January and February belong to the year behind; the last of them ends with the year.
  rcases (by omega : month = 11 ∨ month = 10 ∨ 0 ≤ month ∧ month < 10) with rfl | rfl | ⟨h0, h10⟩
  · simp [IsValid, toDays, daysBeforeMonth]
    omega
  · simp [IsValid, toDays, daysBeforeMonth, daysInMonth]
    omega
  · rw [if_pos h10]
    interval_cases month <;> simp [IsValid, toDays, daysBeforeMonth, daysInMonth] <;> omega

theorem isValid_ofDays (n : Int) : (ofDays n).IsValid :=
  (ofDays_spec n).1

theorem toDays_ofDays (n : Int) : (ofDays n).toDays = n :=
  (ofDays_spec n).2

theorem ofDays_toDays (h : d.IsValid) : ofDays d.toDays = d :=
  eq_of_toDays_eq (isValid_ofDays _) h (toDays_ofDays _)

theorem ofDays_eq_iff {n : Int} : ofDays n = d ↔ d.IsValid ∧ d.toDays = n := by
  constructor
  · rintro rfl
    exact ofDays_spec n
  · rintro ⟨h, rfl⟩
    exact ofDays_toDays h

/-! ## Counting days -/

/-- The date of the next day. -/
def next (d : Date) : Date :=
  if d.day < daysInMonth d.year d.month then ⟨d.year, d.month, d.day + 1⟩
  else if d.month < 12 then ⟨d.year, d.month + 1, 1⟩
  else ⟨d.year + 1, 1, 1⟩

/-- The date is `n` days behind 1 January 1970, counted one day at a time. -/
inductive IsDay : Int → Date → Prop
  | epoch : IsDay 0 ⟨1970, 1, 1⟩
  | next {n : Int} {d : Date} (h : IsDay n d) : IsDay (n + 1) d.next
  | back {n : Int} {d : Date} (hvalid : d.IsValid) (h : IsDay n d.next) : IsDay (n - 1) d

theorem IsValid.next (h : d.IsValid) : d.next.IsValid := by
  have hfirst := le_daysInMonth d.year (d.month + 1)
  have hnewYear := le_daysInMonth (d.year + 1) 1
  obtain ⟨h1, h12, hpos, hle⟩ := h
  unfold Date.next
  split
  case isTrue =>
    simp only [IsValid]
    omega
  case isFalse =>
    split <;> simp only [IsValid] <;> omega

theorem IsValid.toDays_next (h : d.IsValid) : d.next.toDays = d.toDays + 1 := by
  have hstart := monthStart_add_one d.monthIndex
  rw [h.monthLength_eq] at hstart
  rw [h.next.toDays_eq, h.toDays_eq]
  obtain ⟨-, h12, -, hle⟩ := h
  unfold Date.next
  split
  case isTrue =>
    simp only [monthIndex]
    omega
  case isFalse hday =>
    split
    case isTrue =>
      have hindex : (⟨d.year, d.month + 1, 1⟩ : Date).monthIndex = d.monthIndex + 1 := by
        simp only [monthIndex]
        omega
      rw [hindex, hstart]
      simp only
      omega
    case isFalse =>
      have hindex : (⟨d.year + 1, 1, 1⟩ : Date).monthIndex = d.monthIndex + 1 := by
        simp only [monthIndex]
        omega
      rw [hindex, hstart]
      simp only
      omega

theorem next_ofDays (n : Int) : (ofDays n).next = ofDays (n + 1) := by
  have h := isValid_ofDays n
  refine (ofDays_eq_iff.mpr ⟨h.next, ?_⟩).symm
  rw [h.toDays_next, toDays_ofDays]

theorem isDay_ofDays (n : Int) : IsDay n (ofDays n) := by
  induction n using Int.induction_on with
  | zero => exact .epoch
  | succ n ih =>
    rw [← next_ofDays]
    exact .next ih
  | pred n ih =>
    refine .back (isValid_ofDays _) ?_
    rw [next_ofDays, Int.sub_add_cancel]
    exact ih

theorem isDay_iff {n : Int} : IsDay n d ↔ ofDays n = d := by
  constructor
  · intro h
    induction h with
    | epoch => decide
    | next h ih => rw [← ih, next_ofDays]
    | @back n d hvalid h ih =>
      refine ofDays_eq_iff.mpr ⟨hvalid, ?_⟩
      have := hvalid.toDays_next
      rw [← ih, toDays_ofDays] at this
      omega
  · rintro rfl
    exact isDay_ofDays n

end LinkTemplate.Date
