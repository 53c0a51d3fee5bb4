import LinkTemplate.Text.Basic

/-!
# JSON values

A JSON value as it is written: a number keeps its digits, and an object keeps its members in
order and with duplicates. A string may name half of a surrogate pair by an escape; it is then a
string of the grammar that stands for no text.
-/

namespace LinkTemplate.Json

/-- The text of a string, or `none` for a string that stands for no text. -/
abbrev Content := Option Text

/-- A JSON value. -/
inductive Value where
  | null
  | bool (b : Bool)
  | number (literal : Text)
  | string (content : Content)
  | array (items : List Value)
  | object (members : List (Content × Value))
deriving Repr, Inhabited

/-- The string of a text. -/
def Value.ofText (t : Text) : Value :=
  .string (some t)

/-- An array of strings. -/
def Value.ofTexts (ts : List Text) : Value :=
  .array (ts.map ofText)

/-- The text of a string, or null. -/
def Value.ofText? (t? : Option Text) : Value :=
  (t?.map ofText).getD .null

/-- The object with the given members. -/
def Value.ofMembers (members : List (String × Value)) : Value :=
  .object (members.map fun (name, value) => (some name.toList, value))

end LinkTemplate.Json
