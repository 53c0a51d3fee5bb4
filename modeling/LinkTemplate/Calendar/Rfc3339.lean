import LinkTemplate.Calendar.Instant

/-!
# RFC 3339 times

`Rfc3339.read` reads a time such as `2024-01-27T10:05:09.25+01:00`: date, `T`, `t` or a blank,
time of day, an optional fraction of a second, and the zone as `Z`, `z` or a signed hour and
minute. Digits of the fraction behind the ninth are dropped, and a second 60 is a leap second,
in any minute.

A text shorter than date and time ends too early, whatever it holds. From there on the text is
read from left to right and the first fault counts: the date is checked once it is read, the
time of day once its fraction is read, and the size of the zone last.
-/

namespace LinkTemplate.Rfc3339

/-- Why a text is no RFC 3339 time. -/
inductive ReadError where
  | prematureEnd
  | invalidCharacters
  | outOfRange
  | trailingInput
deriving DecidableEq, Repr

/-- The words for a fault. -/
def ReadError.message : ReadError → Text
  | .prematureEnd => "premature end of input".toList
  | .invalidCharacters => "input contains invalid characters".toList
  | .outOfRange => "input is out of range".toList
  | .trailingInput => "trailing input".toList

/-! ## Parts -/

/-- The smallest number of bytes of a time without its zone. -/
def headSize : Nat := 19

/-- Reads a number of exactly `width` digits. -/
def takeNumber (width : Nat) (t : Text) : Except ReadError (Nat × Text) :=
  let digits := t.take width
  if digits.length = width ∧ digits.all Char.isDigit then
    .ok (Text.ofDecimal digits, t.drop width)
  else .error .invalidCharacters

/-- Reads one character that satisfies a test. -/
def takeChar (test : Char → Bool) : Text → Except ReadError Text
  | [] => .error .prematureEnd
  | c :: rest => if test c then .ok rest else .error .invalidCharacters

/-- Reads the fraction of a second, in nanoseconds, if there is one. -/
def takeFraction : Text → Except ReadError (Nat × Text)
  | '.' :: rest =>
    let digits := rest.takeWhile Char.isDigit
    let counted := digits.take 9
    if rest = [] then .error .prematureEnd
    else if digits = [] then .error .invalidCharacters
    else .ok (Text.ofDecimal (counted.rightpad 9 '0'), rest.drop digits.length)
  | rest => .ok (0, rest)

/-- Reads the two digits of a zone's hour or minute. -/
def takeZoneNumber (t : Text) : Except ReadError (Nat × Text) :=
  if Text.utf8Size t < 2 then .error .prematureEnd else takeNumber 2 t

/-- Reads a zone, in seconds ahead of UTC. -/
def takeZone : Text → Except ReadError (Int × Text)
  | [] => .error .prematureEnd
  | c :: rest =>
    if c = 'Z' ∨ c = 'z' then .ok (0, rest)
    else if c = '+' ∨ c = '-' ∨ c = '−' then do
      let (hour, rest) ← takeZoneNumber rest
      let rest ← takeChar (· == ':') rest
      let (minute, rest) ← takeZoneNumber rest
      if minute < 60 then
        let seconds : Int := 3600 * hour + 60 * minute
        .ok (if c = '+' then seconds else -seconds, rest)
      else .error .outOfRange
    else .error .invalidCharacters

/-! ## The whole time -/

/-- Reads the date and the separator behind it. -/
def takeDate (t : Text) : Except ReadError (Date × Text) := do
  let (year, t) ← takeNumber 4 t
  let t ← takeChar (· == '-') t
  let (month, t) ← takeNumber 2 t
  let t ← takeChar (· == '-') t
  let (day, t) ← takeNumber 2 t
  let date : Date := ⟨year, month, day⟩
  if date.IsValid then
    let t ← takeChar (fun c => c == 'T' || c == 't' || c == ' ') t
    .ok (date, t)
  else .error .outOfRange

/-- Reads the time of day, as the second of the day and the nanosecond. -/
def takeTime (t : Text) : Except ReadError (Nat × Nat × Text) := do
  let (hour, t) ← takeNumber 2 t
  let t ← takeChar (· == ':') t
  let (minute, t) ← takeNumber 2 t
  let t ← takeChar (· == ':') t
  let (second, t) ← takeNumber 2 t
  let (nanosecond, t) ← takeFraction t
  if hour < 24 ∧ minute < 60 ∧ second < 60 then
    .ok (3600 * hour + 60 * minute + second, nanosecond, t)
  else if hour < 24 ∧ minute < 60 ∧ second = 60 then
    .ok (3600 * hour + 60 * minute + 59, nanosecond + Instant.nanosPerSecond, t)
  else .error .outOfRange

/-- Reads an RFC 3339 time. -/
def read (t : Text) : Except ReadError Instant :=
  if Text.utf8Size t < headSize then .error .prematureEnd
  else do
    let (date, t) ← takeDate t
    let (second, nanosecond, t) ← takeTime t
    let (zone, t) ← takeZone t
    if t ≠ [] then .error .trailingInput
    else match Instant.ofLocal? date second nanosecond zone with
      | some x => .ok x
      | none => .error .outOfRange

end LinkTemplate.Rfc3339
