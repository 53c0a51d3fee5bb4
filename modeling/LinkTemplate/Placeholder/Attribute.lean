import LinkTemplate.Text.Alphanumeric
import LinkTemplate.Text.Blank

/-!
# Attributes

An attribute is written `key="value"`, and its value is then the text up to the next quote, or
`key=value`, and its value is then the text up to the next blank character. `extract` looks for
the quoted form at every occurrence of the key before it looks for the unquoted form at any.

`quotedValues` finds the quoted values of all keys at once, from left to right.
-/

namespace LinkTemplate.Attribute

/-- Whether a character may be part of a key. -/
def isKeyChar (c : Char) : Bool :=
  Text.isAlphanumeric c || c == '_' || c == '-'

/-! ## One key -/

/-- The positions at which `key` occurs in a text that stands at `position`, found from left to
right without overlap. The first `skip` characters are part of an occurrence already found. The
empty key occurs in front of every character and at the end. -/
def occurrencesFrom (key : Text) (position skip : Nat) : Text → List Nat
  | [] => if key = [] then [position] else []
  | c :: rest =>
    let next := position + c.utf8Size
    match skip with
    | skip + 1 => occurrencesFrom key next skip rest
    | 0 =>
      if key.isPrefixOf (c :: rest) then
        position :: occurrencesFrom key next (key.length - 1) rest
      else occurrencesFrom key next 0 rest

/-- The positions at which `key` occurs in `content`. -/
def occurrences (key content : Text) : List Nat :=
  occurrencesFrom key 0 0 content

/-- The position behind the `=` of an occurrence of `key`, unless the key is the end of a longer
word or no `=` follows. -/
def valueStart? (key content : Text) (position : Nat) : Option Nat :=
  let after := position + Text.utf8Size key
  let inWord := ((Text.takeBytes position content).getLast?.map isKeyChar).getD false
  if !inWord && (Text.dropBytes after content).head? == some '=' then some (after + 1) else none

/-- The positions behind each `key=` in `content`. -/
def valueStarts (key content : Text) : List Nat :=
  (occurrences key content).filterMap (valueStart? key content)

/-- The quoted value that a text starts with. -/
def quotedValue? : Text → Option Text
  | '"' :: rest => (Text.cut? '"' rest).map (·.1)
  | _ => none

/-- The unquoted value that a text starts with, which is not empty. -/
def bareValue? (t : Text) : Option Text :=
  let value := t.takeWhile fun c => !Text.isBlank c
  if value = [] then none else some value

/-- The value of `key` in `content`. -/
def extract (key content : Text) : Option Text :=
  let rests := (valueStarts key content).map fun start => Text.dropBytes start content
  (rests.findSome? quotedValue?).or (rests.findSome? bareValue?)

/-! ## All keys -/

/-- A quoted value, its two quotes included. -/
structure QuotedValue where
  /-- The position of the opening quote. -/
  start : Nat
  /-- The position behind the closing quote. -/
  stop : Nat
deriving DecidableEq, Repr

/-- Whether the character at a position belongs to a quoted value. -/
def QuotedValue.covers (v : QuotedValue) (position : Nat) : Bool :=
  v.start ≤ position && position < v.stop

/-- The quoted values of a text that stands at `position` behind the character `before?`. The
first `skip` characters are part of a value already found. -/
def quotedValuesFrom (position : Nat) (before? : Option Char) (skip : Nat) :
    Text → List QuotedValue
  | [] => []
  | c :: rest =>
    let next := position + c.utf8Size
    match skip with
    | skip + 1 => quotedValuesFrom next (some c) skip rest
    | 0 =>
      match if c = '=' && (before?.map isKeyChar).getD false then quotedValue? rest else none with
      | some value =>
        ⟨next, next + Text.utf8Size value + 2⟩ ::
          quotedValuesFrom next (some c) (value.length + 2) rest
      | none => quotedValuesFrom next (some c) 0 rest

/-- The quoted values of the `key="value"` pairs of a text, from left to right. -/
def quotedValues (content : Text) : List QuotedValue :=
  quotedValuesFrom 0 none 0 content

/-- Whether a quote of a text that stands at `position` behind the character `before?` belongs
to none of `values` and has no backslash in front of it. -/
def hasStrayQuoteFrom (values : List QuotedValue) (position : Nat) (before? : Option Char) :
    Text → Bool
  | [] => false
  | c :: rest =>
    (c == '"' && !values.any (·.covers position) && before? != some '\\') ||
      hasStrayQuoteFrom values (position + c.utf8Size) (some c) rest

/-- Whether a text has a quote that neither belongs to a quoted value nor follows a backslash. -/
def hasStrayQuote (content : Text) : Bool :=
  hasStrayQuoteFrom (quotedValues content) 0 none content

end LinkTemplate.Attribute
