import LinkTemplate.Json.Value
import LinkTemplate.Text.Hexadecimal

/-!
# Reading JSON

`read?` reads a text that holds one JSON value with nothing but blanks around it, by the grammar
of RFC 8259. A string is read in two steps: `readPieces` finds its characters and escapes, and
`assemble?` joins surrogate pairs; half of a pair leaves the string without a text but the
grammar satisfied.
-/

namespace LinkTemplate.Json

/-- Whether a character is blank between tokens. -/
def isBlank (c : Char) : Bool :=
  c == ' ' || c == '\n' || c == '\t' || c == '\r'

/-- The text without the blanks at its start. -/
def skipBlanks (t : Text) : Text :=
  t.dropWhile isBlank

/-! ## Strings -/

/-- A part of a string. -/
inductive Piece where
  /-- A character, as itself or by a short escape. -/
  | char (c : Char)
  /-- A 16-bit unit, by its four hexadecimal digits. -/
  | unit (n : Nat)
deriving DecidableEq, Repr

/-- The unit that four hexadecimal digits name. -/
def unit? (a b c d : Char) : Option Nat := do
  let digits ← [a, b, c, d].mapM Text.hexValue?
  return digits.foldl (fun n digit => 16 * n + digit) 0

/-- The character of a short escape. -/
def shortEscape? : Char → Option Char
  | '"' => some '"'
  | '\\' => some '\\'
  | '/' => some '/'
  | 'b' => some '\x08'
  | 'f' => some '\x0c'
  | 'n' => some '\n'
  | 'r' => some '\r'
  | 't' => some '\t'
  | _ => none

/-- The pieces of a string up to its closing quote, and the text behind it. -/
def readPieces : Text → Option (List Piece × Text)
  | [] => none
  | '"' :: rest => some ([], rest)
  | '\\' :: 'u' :: a :: b :: c :: d :: rest => do
    let n ← unit? a b c d
    let (pieces, rest) ← readPieces rest
    return (.unit n :: pieces, rest)
  | '\\' :: e :: rest => do
    let c ← shortEscape? e
    let (pieces, rest) ← readPieces rest
    return (.char c :: pieces, rest)
  | c :: rest => do
    if c.toNat < 0x20 ∨ c = '\\' then none
    let (pieces, rest) ← readPieces rest
    return (.char c :: pieces, rest)

/-- Whether a unit is the first half of a surrogate pair. -/
def isHighSurrogate (n : Nat) : Bool :=
  0xD800 ≤ n && n ≤ 0xDBFF

/-- Whether a unit is the second half of a surrogate pair. -/
def isLowSurrogate (n : Nat) : Bool :=
  0xDC00 ≤ n && n ≤ 0xDFFF

/-- The text of the pieces of a string, if every surrogate has its partner. -/
def assemble? : List Piece → Content
  | [] => some []
  | .char c :: rest => (assemble? rest).map (c :: ·)
  | .unit high :: .unit low :: rest =>
    if isHighSurrogate high ∧ isLowSurrogate low then
      (assemble? rest).map (Char.ofNat (0x10000 + 1024 * (high - 0xD800) + (low - 0xDC00)) :: ·)
    else if isHighSurrogate high ∨ isLowSurrogate high then none
    else (assemble? (.unit low :: rest)).map (Char.ofNat high :: ·)
  | .unit n :: rest =>
    if isHighSurrogate n ∨ isLowSurrogate n then none
    else (assemble? rest).map (Char.ofNat n :: ·)

/-- Reads a string behind its opening quote. -/
def readString (t : Text) : Option (Content × Text) :=
  (readPieces t).map fun (pieces, rest) => (assemble? pieces, rest)

/-! ## Numbers -/

/-- Reads one or more digits. -/
def takeDigits (t : Text) : Option (Text × Text) :=
  let digits := t.takeWhile Char.isDigit
  if digits = [] then none else some (digits, t.drop digits.length)

/-- Reads the digits in front of the point, where a zero stands alone. -/
def takeInteger : Text → Option (Text × Text)
  | '0' :: rest => if (rest.head?.map Char.isDigit).getD false then none else some (['0'], rest)
  | t => takeDigits t

/-- Reads the point and the digits behind it, if there are any. -/
def takePointPart : Text → Option (Text × Text)
  | '.' :: rest => (takeDigits rest).map fun (digits, rest) => ('.' :: digits, rest)
  | t => some ([], t)

/-- Reads the exponent, if there is one. -/
def takeExponent : Text → Option (Text × Text)
  | [] => some ([], [])
  | e :: rest =>
    if e = 'e' ∨ e = 'E' then
      match rest with
      | [] => none
      | sign :: digits =>
        if sign = '+' ∨ sign = '-' then
          (takeDigits digits).map fun (digits, rest) => (e :: sign :: digits, rest)
        else (takeDigits rest).map fun (digits, rest) => (e :: digits, rest)
    else some ([], e :: rest)

/-- Reads a number without its sign. -/
def takeUnsigned (t : Text) : Option (Text × Text) := do
  let (whole, t) ← takeInteger t
  let (point, t) ← takePointPart t
  let (exponent, t) ← takeExponent t
  return (whole ++ point ++ exponent, t)

/-- Reads a number. -/
def takeNumber : Text → Option (Text × Text)
  | '-' :: rest => (takeUnsigned rest).map fun (literal, rest) => ('-' :: literal, rest)
  | t => takeUnsigned t

/-! ## Values -/

mutual

/-- Reads a value and the blanks in front of it. -/
def readValue : Nat → Text → Option (Value × Text)
  | 0, _ => none
  | fuel + 1, t =>
    match skipBlanks t with
    | 'n' :: 'u' :: 'l' :: 'l' :: rest => some (.null, rest)
    | 't' :: 'r' :: 'u' :: 'e' :: rest => some (.bool true, rest)
    | 'f' :: 'a' :: 'l' :: 's' :: 'e' :: rest => some (.bool false, rest)
    | '"' :: rest => (readString rest).map fun (content, rest) => (.string content, rest)
    | '[' :: rest =>
      match skipBlanks rest with
      | ']' :: rest => some (.array [], rest)
      | rest => (readItems fuel rest).map fun (items, rest) => (.array items, rest)
    | '{' :: rest =>
      match skipBlanks rest with
      | '}' :: rest => some (.object [], rest)
      | rest => (readMembers fuel rest).map fun (members, rest) => (.object members, rest)
    | rest => (takeNumber rest).map fun (literal, rest) => (.number literal, rest)

/-- Reads the items of an array up to its closing bracket. There is at least one. -/
def readItems : Nat → Text → Option (List Value × Text)
  | 0, _ => none
  | fuel + 1, t => do
    let (item, t) ← readValue fuel t
    match skipBlanks t with
    | ',' :: t =>
      let (items, t) ← readItems fuel t
      return (item :: items, t)
    | ']' :: t => return ([item], t)
    | _ => none

/-- Reads the members of an object up to its closing brace. There is at least one. -/
def readMembers : Nat → Text → Option (List (Content × Value) × Text)
  | 0, _ => none
  | fuel + 1, t => do
    let '"' :: t := skipBlanks t | none
    let (name, t) ← readString t
    let ':' :: t := skipBlanks t | none
    let (value, t) ← readValue fuel t
    match skipBlanks t with
    | ',' :: t =>
      let (members, t) ← readMembers fuel t
      return ((name, value) :: members, t)
    | '}' :: t => return ([(name, value)], t)
    | _ => none

end

/-- A number of steps that reading a text does not reach: an opening bracket or brace takes
two, and every other step consumes a character. -/
def stepBound (t : Text) : Nat :=
  2 * t.length + 2

/-- The JSON value that a text writes. -/
def read? (t : Text) : Option Value := do
  let (value, rest) ← readValue (stepBound t) t
  if skipBlanks rest = [] then some value else none

end LinkTemplate.Json
