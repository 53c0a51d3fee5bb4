import LinkTemplate.Calendar.Date

/-!
# Instants

An instant is a second of the UTC time line with its nanosecond, seen from a zone. A leap second
is held as the second in front of it, the last one of a minute, with a nanosecond of 1 000 000
000 or more. The local date and time of day follow from the number of the second and the zone.

Instants lie in the years of the calendar, which `Instant.of?` sees to: it gives no instant out
of range.
-/

namespace LinkTemplate

namespace Instant

/-- The number of seconds of a day. -/
def secondsPerDay : Int := 86400

/-- The number of nanoseconds of a second. -/
def nanosPerSecond : Nat := 1000000000

/-- The first year of the calendar. -/
def minYear : Int := -262143

/-- The last year of the calendar. -/
def maxYear : Int := 262142

/-- The first second of the calendar. -/
def minTimestamp : Int :=
  Date.toDays ⟨minYear, 1, 1⟩ * secondsPerDay

/-- The last second of the calendar. -/
def maxTimestamp : Int :=
  Date.toDays ⟨maxYear, 12, 31⟩ * secondsPerDay + (secondsPerDay - 1)

end Instant

/-- A time with the zone it is seen from. -/
structure Instant where
  /-- The whole seconds since 1 January 1970 in UTC, negative for earlier times. -/
  timestamp : Int
  /-- The nanosecond, which is a second or more inside a leap second. -/
  nanosecond : Nat
  /-- How many seconds local time is ahead of UTC. -/
  zone : Int
  minTimestamp_le : Instant.minTimestamp ≤ timestamp
  le_maxTimestamp : timestamp ≤ Instant.maxTimestamp
  nanosecond_lt : nanosecond < 2 * Instant.nanosPerSecond
  closes_minute : Instant.nanosPerSecond ≤ nanosecond → timestamp % 60 = 59
  zone_lt : zone.natAbs < 86400
deriving DecidableEq, Repr

namespace Instant

/-- The instant of the given parts, if there is one. -/
def of? (timestamp : Int) (nanosecond : Nat) (zone : Int) : Option Instant :=
  if h : minTimestamp ≤ timestamp ∧ timestamp ≤ maxTimestamp ∧ nanosecond < 2 * nanosPerSecond ∧
      (nanosPerSecond ≤ nanosecond → timestamp % 60 = 59) ∧ zone.natAbs < 86400 then
    some ⟨timestamp, nanosecond, zone, h.1, h.2.1, h.2.2.1, h.2.2.2.1, h.2.2.2.2⟩
  else none

/-- The start of 1 January 1970 in UTC. -/
def epoch : Instant :=
  ⟨0, 0, 0, by decide, by decide, by decide, by decide, by decide⟩

instance : Inhabited Instant := ⟨epoch⟩

/-! ## Local date and time -/

/-- The timestamp that the local date and time would have in UTC. -/
def localTimestamp (x : Instant) : Int :=
  x.timestamp + x.zone

/-- The local date. -/
def date (x : Instant) : Date :=
  Date.ofDays (x.localTimestamp / secondsPerDay)

/-- The seconds since local midnight. -/
def secondOfDay (x : Instant) : Nat :=
  (x.localTimestamp % secondsPerDay).toNat

/-- The local hour, below 24. -/
def hour (x : Instant) : Nat :=
  x.secondOfDay / 3600

/-- The local minute, below 60. -/
def minute (x : Instant) : Nat :=
  x.secondOfDay / 60 % 60

/-- The local second, below 60: a leap second shows as the second in front of it. -/
def second (x : Instant) : Nat :=
  x.secondOfDay % 60

/-- Whether the instant lies in a leap second. -/
def inLeapSecond (x : Instant) : Bool :=
  nanosPerSecond ≤ x.nanosecond

/-- The instant of a local date and second of the day in a zone, if there is one. -/
def ofLocal? (date : Date) (secondOfDay nanosecond : Nat) (zone : Int) : Option Instant :=
  of? (date.toDays * secondsPerDay + secondOfDay - zone) nanosecond zone

/-- Whether the calendar has the year. -/
def yearInRange (year : Int) : Bool :=
  minYear ≤ year && year ≤ maxYear

end Instant

end LinkTemplate
