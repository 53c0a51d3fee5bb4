import LinkTemplate.Calendar.Instant

/-!
# Field patterns

A pattern such as `yyyy-MM-dd 'at' HH:mm` says how to write an instant. A run of one ASCII
letter is a field, single quotes go around literal text, two single quotes are an apostrophe
inside and outside quotes, and every other character stands for itself. A field whose letter has
no meaning is written as it stands.

`tokens` cuts a pattern into fields and literal characters, and `format` writes the tokens one
by one.
-/

namespace LinkTemplate.Pattern

/-! ## Tokens -/

/-- A piece of a pattern. -/
inductive Token where
  | literal (c : Char)
  /-- A run of `count` letters. -/
  | field (letter : Char) (count : Nat)
deriving DecidableEq, Repr

/-- The tokens with one more letter in front, which joins a field of the same letter. -/
def pushLetter (letter : Char) : List Token → List Token
  | .field l count :: rest =>
    if l = letter then .field l (count + 1) :: rest else .field letter 1 :: .field l count :: rest
  | rest => .field letter 1 :: rest

/-- The tokens of a pattern that starts inside or outside single quotes. -/
def tokensFrom (quoted : Bool) : Text → List Token
  | [] => []
  | '\'' :: '\'' :: rest => .literal '\'' :: tokensFrom quoted rest
  | '\'' :: rest => tokensFrom (!quoted) rest
  | c :: rest =>
    if !quoted && c.isAlpha then pushLetter c (tokensFrom quoted rest)
    else .literal c :: tokensFrom quoted rest

/-- The tokens of a pattern. -/
def tokens (pattern : Text) : List Token :=
  tokensFrom false pattern

/-! ## Fields -/

/-- The English names of the months. -/
def monthNames : List String :=
  ["January", "February", "March", "April", "May", "June", "July", "August", "September",
   "October", "November", "December"]

/-- The English names of the days of the week. -/
def dayNames : List String :=
  ["Sunday", "Monday", "Tuesday", "Wednesday", "Thursday", "Friday", "Saturday"]

/-- The name of the local month. -/
def monthName (x : Instant) : Text :=
  (monthNames.getD (x.date.month - 1) "").toList

/-- The name of the local day of the week. -/
def dayName (x : Instant) : Text :=
  (dayNames.getD x.date.dayOfWeek "").toList

/-- A year: four digits for the years 0 to 9999, and a sign with at least four digits
otherwise. -/
def yearText (year : Int) : Text :=
  if 0 ≤ year ∧ year ≤ 9999 then Text.padded 4 year.natAbs
  else (if year < 0 then '-' else '+') :: Text.padded 4 year.natAbs

/-- The hour of a clock with twelve hours, from 1 to 12. -/
def twelveHour (hour : Nat) : Nat :=
  if hour % 12 = 0 then 12 else hour % 12

/-- The first `digits` digits of the fraction of the second. -/
def fractionText (digits nanosecond : Nat) : Text :=
  let nine := Text.padded 9 (nanosecond % Instant.nanosPerSecond)
  (nine.take digits).rightpad digits '0'

/-- The sign of a zone. -/
def zoneSign (zone : Int) : Char :=
  if zone < 0 then '-' else '+'

/-- The hours and minutes of a zone, rounded to the minute, with `separator` between them. -/
def zoneText (separator : Text) (zone : Int) : Text :=
  let minutes := (zone.natAbs + 30) / 60
  zoneSign zone :: Text.padded 2 (minutes / 60) ++ separator ++ Text.padded 2 (minutes % 60)

/-- The name of a zone: its hours and minutes, and its seconds if there are any. -/
def zoneName (zone : Int) : Text :=
  let seconds := zone.natAbs
  zoneSign zone :: Text.padded 2 (seconds / 3600) ++ ':' :: Text.padded 2 (seconds / 60 % 60) ++
    if seconds % 60 = 0 then [] else ':' :: Text.padded 2 (seconds % 60)

/-- A number as it stands in a field of one letter, or with two digits in a longer one. -/
def numberText (count n : Nat) : Text :=
  Text.padded (min count 2) n

/-- The text of a field, unless its letter has no meaning. -/
def fieldText? (x : Instant) (letter : Char) (count : Nat) : Option Text :=
  match letter with
  | 'y' =>
    some (if count = 2 then Text.padded 2 (x.date.year % 100).toNat else yearText x.date.year)
  | 'M' | 'L' => some <|
    if count ≤ 2 then numberText count x.date.month
    else if count = 3 then (monthName x).take 3
    else if count = 4 then monthName x
    else (monthName x).take 1
  | 'd' => some (numberText count x.date.day)
  | 'D' => some (Text.padded (if count = 1 then 1 else 3) x.date.dayOfYear)
  | 'E' => some <|
    if count ≤ 3 then (dayName x).take 3
    else if count = 4 then dayName x
    else (dayName x).take 1
  | 'a' => some (if x.hour < 12 then "AM".toList else "PM".toList)
  | 'H' => some (numberText count x.hour)
  | 'h' => some (numberText count (twelveHour x.hour))
  | 'k' => some (numberText count (if x.hour = 0 then 24 else x.hour))
  | 'K' => some (numberText count (x.hour % 12))
  | 'm' => some (numberText count x.minute)
  | 's' => some (numberText count (x.second + if x.inLeapSecond then 1 else 0))
  | 'S' => some (fractionText count x.nanosecond)
  | 'Z' => some <|
    if count ≤ 3 then zoneText [] x.zone
    else if count = 4 then "GMT".toList ++ zoneText [':'] x.zone
    else zoneText [':'] x.zone
  | 'z' => some (zoneName x.zone)
  | 'x' | 'X' => some <|
    if letter = 'X' ∧ x.zone = 0 then ['Z']
    else if count = 1 ∨ count = 2 ∨ count = 4 then zoneText [] x.zone
    else zoneText [':'] x.zone
  | _ => none

/-- The text of a token. -/
def tokenText (x : Instant) : Token → Text
  | .literal c => [c]
  | .field letter count => (fieldText? x letter count).getD (List.replicate count letter)

/-- The instant written by a pattern. -/
def format (x : Instant) (pattern : Text) : Text :=
  (tokens pattern).flatMap (tokenText x)

end LinkTemplate.Pattern
