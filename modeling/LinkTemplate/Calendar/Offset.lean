import LinkTemplate.Calendar.Instant

/-!
# Date offsets

An offset is a signed amount of one unit, written as in `+7d`, `-1M` or `+30m`. Minutes, hours
and days are fixed numbers of seconds. Months and years move the local date and keep the time of
day; a day that the target month lacks becomes its last day. `Instant.shift?` has no result when
the instant would leave the years of the calendar, and `Instant.shiftBy` keeps an instant that a
token cannot shift.
-/

namespace LinkTemplate

/-- A unit of time. -/
inductive OffsetUnit where
  | minutes
  | hours
  | days
  | months
  | years
deriving DecidableEq, Repr

namespace OffsetUnit

/-- Every unit. -/
def all : List OffsetUnit :=
  [.minutes, .hours, .days, .months, .years]

/-- The letter of a unit, in the case that counts. -/
def letter : OffsetUnit → Char
  | .minutes => 'm'
  | .hours => 'h'
  | .days => 'd'
  | .months => 'M'
  | .years => 'y'

/-- The unit of a letter. -/
def ofLetter? (c : Char) : Option OffsetUnit :=
  all.find? fun u => u.letter = c

theorem ofLetter?_letter (u : OffsetUnit) : ofLetter? u.letter = some u := by
  cases u <;> decide

end OffsetUnit

/-- A signed amount of a unit. -/
structure Offset where
  amount : Int
  unit : OffsetUnit
deriving DecidableEq, Repr

namespace Offset

/-! ## Tokens -/

/-- The largest amount of an offset in either direction, which fits into 64 bits with a sign. -/
def maxAmount : Nat := 9223372036854775807

/-- A number fits into 64 bits with a sign. -/
def FitsWord (n : Int) : Prop :=
  -9223372036854775808 ≤ n ∧ n ≤ maxAmount

instance (n : Int) : Decidable (FitsWord n) :=
  inferInstanceAs (Decidable (_ ∧ _))

/-- The sign that a character writes. -/
def sign? : Char → Option Int
  | '+' => some 1
  | '-' => some (-1)
  | _ => none

/-- Reads a sign, decimal digits and the letter of a unit, with nothing else around them. -/
def parse? : Text → Option Offset
  | [] => none
  | c :: rest => do
    let sign ← sign? c
    let unit ← rest.getLast?.bind OffsetUnit.ofLetter?
    let digits := rest.dropLast
    let amount := Text.ofDecimal digits
    if digits ≠ [] ∧ digits.all Char.isDigit ∧ amount ≤ maxAmount then some ⟨sign * amount, unit⟩
    else none

/-- The token of an offset. -/
def print (o : Offset) : Text :=
  (if 0 ≤ o.amount then '+' else '-') :: Text.decimal o.amount.natAbs ++ [o.unit.letter]

end Offset

namespace Instant

/-! ## Shifting -/

/-- The longest duration in seconds: its milliseconds fit into 64 bits with a sign. -/
def maxDuration : Nat := 9223372036854775

/-- The seconds of an amount of units of `size` seconds, if they fit into 64 bits with a sign and
are no longer than the longest duration. -/
def duration? (size amount : Int) : Option Int :=
  let seconds := size * amount
  if Offset.FitsWord seconds ∧ seconds.natAbs ≤ maxDuration then some seconds else none

/-- The instant a number of seconds later, if it is in range. From inside a leap second, a shift
forward drops the leap second and a shift back starts from the second behind it. -/
def addSeconds? (x : Instant) (seconds : Int) : Option Instant :=
  if x.inLeapSecond && seconds != 0 then
    let left := if seconds < 0 then x.timestamp + 1 else x.timestamp
    of? (left + seconds) (x.nanosecond - nanosPerSecond) x.zone
  else of? (x.timestamp + seconds) x.nanosecond x.zone

/-- The largest number of months that the calendar counts in either direction, which fits into 32
bits with a sign. -/
def maxMonths : Nat := 2147483647

/-- The instant on the same day a number of months later, or on the last day of that month if it
is shorter. No months leave every instant as it is. -/
def addMonths? (x : Instant) (months : Int) : Option Instant :=
  if months = 0 then some x
  else
    let date := x.date.addMonths months
    if months.natAbs ≤ maxMonths ∧ yearInRange date.year then
      ofLocal? date x.secondOfDay x.nanosecond x.zone
    else none

/-- How many numbers fit into 32 bits without a sign. -/
def halfWord : Nat := 4294967296

/-- How many numbers fit into 64 bits without a sign. -/
def word : Nat := 18446744073709551616

/-- The instant a number of months later or earlier, if the number fits into 32 bits and the
result is in range. -/
def shiftMonths? (x : Instant) (back : Bool) (months : Nat) : Option Instant :=
  if months < halfWord then x.addMonths? (if back then -months else months) else none

/-- The instant shifted by an offset, if the result is in range and the seconds or months of the
offset can be counted. -/
def shift? (x : Instant) (o : Offset) : Option Instant :=
  match o.unit with
  | .minutes => (duration? 60 o.amount).bind x.addSeconds?
  | .hours => (duration? 3600 o.amount).bind x.addSeconds?
  | .days => (duration? 86400 o.amount).bind x.addSeconds?
  | .months => x.shiftMonths? (o.amount < 0) o.amount.natAbs
  | .years =>
    let months := o.amount.natAbs * 12
    if months < word then x.shiftMonths? (o.amount < 0) months else none

/-- The instant shifted by an offset token; a token that is no offset, or leads out of range,
leaves it as it is. -/
def shiftBy (x : Instant) (token : Text) : Instant :=
  ((Offset.parse? token).bind x.shift?).getD x

end Instant

end LinkTemplate
