import LinkTemplate.Calendar.Offset
import LinkTemplate.Proofs.Calendar.Instants

/-!
# Shifts by minutes, hours and days

A shift by a number of seconds lands on a second of the time line (`landing`) and exists exactly
if the calendar has that second (`isSome_addSeconds?_iff`). The guards on the duration change
nothing : a duration that cannot be held leads out of every calendar (`shift?_eq_addSeconds?`).

Outside leap seconds the shift is addition : it lands on the exact sum, two shifts are one by the
sum of the amounts, and the shift back undoes it (`fixed_shift_is_addition`).
-/

namespace LinkTemplate

/-- The seconds of a unit that is always equally long. -/
def OffsetUnit.seconds? : OffsetUnit → Option Int
  | .minutes => some 60
  | .hours => some 3600
  | .days => some 86400
  | .months | .years => none

namespace Instant

variable {x y : Instant} {seconds : Int}

/-! ## Shifts by seconds -/

/-- The second that a shift leads to. A leap second is behind the second that it is held as. -/
def landing (x : Instant) (seconds : Int) : Int :=
  if x.inLeapSecond ∧ seconds < 0 then x.timestamp + 1 + seconds else x.timestamp + seconds

/-- The nanosecond behind a shift, which leaves a leap second unless it is by no seconds. -/
def keptNanosecond (x : Instant) (seconds : Int) : Nat :=
  if x.inLeapSecond ∧ seconds ≠ 0 then x.nanosecond - nanosPerSecond else x.nanosecond

theorem addSeconds?_eq (x : Instant) (seconds : Int) :
    x.addSeconds? seconds = of? (x.landing seconds) (x.keptNanosecond seconds) x.zone := by
  unfold addSeconds? landing keptNanosecond
  by_cases hleap : x.inLeapSecond = true <;> by_cases hzero : seconds = 0 <;>
    by_cases hneg : seconds < 0 <;> simp [hleap, hzero, hneg]

theorem addSeconds?_eq_some_iff :
    x.addSeconds? seconds = some y ↔
      y.timestamp = x.landing seconds ∧ y.nanosecond = x.keptNanosecond seconds ∧
        y.zone = x.zone := by
  rw [addSeconds?_eq, of?_eq_some_iff]

theorem isSome_addSeconds?_iff : (x.addSeconds? seconds).isSome ↔ InRange (x.landing seconds) := by
  have hlt := x.nanosecond_lt
  rw [addSeconds?_eq]
  refine isSome_of?_iff ?_ (fun hleap => ?_) x.zone_lt
  · unfold keptNanosecond
    split <;> omega
  · have hcloses := x.closes_minute
    unfold keptNanosecond at hleap
    split at hleap
    case isTrue => omega
    case isFalse h =>
      have hzero : seconds = 0 := by
        simpa [inLeapSecond, hleap] using h
      simpa [landing, hzero] using hcloses hleap

theorem addSeconds?_zero (x : Instant) : x.addSeconds? 0 = some x := by
  simp [addSeconds?_eq_some_iff, landing, keptNanosecond]

/-! ## Units of fixed length -/

theorem bind_duration? (x : Instant) (size amount : Int) :
    (duration? size amount).bind x.addSeconds? = x.addSeconds? (size * amount) := by
  simp only [duration?]
  split
  case isTrue => rfl
  case isFalse h =>
    refine (Option.not_isSome_iff_eq_none.mp fun hsome => h ?_).symm
    have hlanding := inRange_iff.mp (isSome_addSeconds?_iff.mp hsome)
    have hstart := inRange_iff.mp x.inRange_timestamp
    unfold landing at hlanding
    simp only [Offset.FitsWord, Offset.maxAmount, maxDuration]
    split at hlanding <;> omega

theorem shift?_eq_addSeconds? {u : OffsetUnit} {size : Int} (hu : u.seconds? = some size)
    (x : Instant) (n : Int) : x.shift? ⟨n, u⟩ = x.addSeconds? (size * n) := by
  cases u with
  | minutes | hours | days =>
    obtain rfl := Option.some.inj hu
    exact x.bind_duration? _ n
  | months | years => cases hu

theorem inLeapSecond_congr (h : y.nanosecond = x.nanosecond) : y.inLeapSecond = x.inLeapSecond := by
  rw [inLeapSecond, inLeapSecond, h]

section FixedUnit

variable {u : OffsetUnit} {size : Int}

/-- Outside leap seconds a shift adds the seconds of its amount and changes nothing else. -/
theorem shift?_eq_some_iff (hx : x.inLeapSecond = false) (hu : u.seconds? = some size) {n : Int} :
    x.shift? ⟨n, u⟩ = some y ↔
      y.timestamp = x.timestamp + n * size ∧ y.nanosecond = x.nanosecond ∧ y.zone = x.zone := by
  rw [shift?_eq_addSeconds? hu, addSeconds?_eq_some_iff, Int.mul_comm]
  simp [landing, keptNanosecond, hx]

theorem isSome_shift?_iff (hx : x.inLeapSecond = false) (hu : u.seconds? = some size) {n : Int} :
    (x.shift? ⟨n, u⟩).isSome ↔ InRange (x.timestamp + n * size) := by
  rw [shift?_eq_addSeconds? hu, isSome_addSeconds?_iff, Int.mul_comm]
  simp [landing, hx]

theorem shift?_shift? (hx : x.inLeapSecond = false) (hu : u.seconds? = some size) {a : Int}
    (h : x.shift? ⟨a, u⟩ = some y) (b : Int) : y.shift? ⟨b, u⟩ = x.shift? ⟨a + b, u⟩ := by
  obtain ⟨htimestamp, hnanosecond, hzone⟩ := (shift?_eq_some_iff hx hu).mp h
  have hy : y.inLeapSecond = false := by rw [inLeapSecond_congr hnanosecond, hx]
  ext z
  rw [shift?_eq_some_iff hy hu, shift?_eq_some_iff hx hu, htimestamp, hnanosecond, hzone,
    Int.add_mul, Int.add_assoc]

/-- From an instant outside leap seconds, a shift by minutes, hours or days exists exactly if the
exact sum of the timestamp and the seconds of the amount lies in the calendar; it has that sum as
its timestamp, keeps nanosecond and zone, and shows the date and time that the sum has in the
zone. Shifts one after the other are one shift by the sum of their amounts, and the shift back
undoes a shift. -/
theorem fixed_shift_is_addition (hx : x.inLeapSecond = false) (hu : u.seconds? = some size) :
    (∀ n, (x.shift? ⟨n, u⟩).isSome ↔ InRange (x.timestamp + n * size)) ∧
    (∀ n y, x.shift? ⟨n, u⟩ = some y →
      y.timestamp = x.timestamp + n * size ∧ y.nanosecond = x.nanosecond ∧ y.zone = x.zone ∧
        y.Shows (x.timestamp + n * size + x.zone)) ∧
    (∀ a b y, x.shift? ⟨a, u⟩ = some y → y.shift? ⟨b, u⟩ = x.shift? ⟨a + b, u⟩) ∧
    (∀ n y, x.shift? ⟨n, u⟩ = some y → y.shift? ⟨-n, u⟩ = some x) := by
  refine ⟨fun n => isSome_shift?_iff hx hu, fun n y h => ?_, fun a b y h => shift?_shift? hx hu h b,
    fun n y h => ?_⟩
  · obtain ⟨htimestamp, hnanosecond, hzone⟩ := (shift?_eq_some_iff hx hu).mp h
    refine ⟨htimestamp, hnanosecond, hzone, ?_⟩
    rw [← htimestamp, ← hzone]
    exact y.shows_localTimestamp
  · rw [shift?_shift? hx hu h, Int.add_right_neg, shift?_eq_some_iff hx hu]
    simp

/-- From the last second of 28 February 1900 in UTC, seen half an hour east of it, a day leads to
the last second of 1 March, because 1900 is no leap year, and a day back leads back; the largest
amount of days leads out of the calendar. -/
theorem fixed_shift_is_addition_century :
    let x : Instant := ⟨-2203891201, 999999999, 1800, by decide, by decide, by decide, by decide,
      by decide⟩
    let y : Instant := ⟨-2203804801, 999999999, 1800, by decide, by decide, by decide, by decide,
      by decide⟩
    x.inLeapSecond = false ∧ OffsetUnit.seconds? .days = some 86400 ∧
      x.shift? ⟨1, .days⟩ = some y ∧ y.Shows (-2203891201 + 1 * 86400 + 1800) ∧
      y.date = ⟨1900, 3, 2⟩ ∧ y.shift? ⟨-1, .days⟩ = some x ∧
      (x.shift? ⟨9223372036854775807, .days⟩).isSome = false := by
  intro x y
  have hx : x.inLeapSecond = false := by decide
  have hshift : x.shift? ⟨1, .days⟩ = some y := by decide
  obtain ⟨hsome, hshown, -, hback⟩ := fixed_shift_is_addition hx (u := .days) rfl
  refine ⟨hx, rfl, hshift, (hshown 1 y hshift).2.2.2, by decide, hback 1 y hshift, ?_⟩
  rw [Bool.eq_false_iff, ne_eq, hsome]
  decide

end FixedUnit

end Instant

end LinkTemplate
