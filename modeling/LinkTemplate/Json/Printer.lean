import LinkTemplate.Json.Value
import LinkTemplate.Text.Hexadecimal

/-!
# Writing JSON

`Value.render` writes a value over several lines, with two blanks for each level of depth and a
line for each item of an array and each member of an object. A string is written between quotes
with the short escapes where there is one and with `\u00` and two hexadecimal digits for the
other control characters.
-/

namespace LinkTemplate.Json

/-- A character as it is written in a string. -/
def escapeChar (c : Char) : Text :=
  match c with
  | '"' => ['\\', '"']
  | '\\' => ['\\', '\\']
  | '\x08' => ['\\', 'b']
  | '\x0c' => ['\\', 'f']
  | '\n' => ['\\', 'n']
  | '\r' => ['\\', 'r']
  | '\t' => ['\\', 't']
  | c =>
    if c.toNat < 0x20 then
      ['\\', 'u', '0', '0', Text.hexDigit (c.toNat / 16), Text.hexDigit (c.toNat % 16)]
    else [c]

/-- A text as a string between quotes. -/
def quote (t : Text) : Text :=
  '"' :: t.flatMap escapeChar ++ ['"']

/-- A string; one that stands for no text is written as half of a surrogate pair. -/
def renderContent : Content → Text
  | some t => quote t
  | none => "\"\\ud800\"".toList

/-- The start of a new line at a depth. -/
def newLine (depth : Nat) : Text :=
  '\n' :: List.replicate (2 * depth) ' '

mutual

/-- A value whose first line starts at a depth. -/
def Value.renderAt (depth : Nat) : Value → Text
  | .null => "null".toList
  | .bool b => if b then "true".toList else "false".toList
  | .number literal => literal
  | .string content => renderContent content
  | .array items =>
    if items.isEmpty then "[]".toList
    else '[' :: renderItems (depth + 1) items ++ newLine depth ++ [']']
  | .object members =>
    if members.isEmpty then ['{', '}']
    else '{' :: renderMembers (depth + 1) members ++ newLine depth ++ ['}']

/-- The items of an array, each on a line of its own. -/
def renderItems (depth : Nat) : List Value → Text
  | [] => []
  | item :: rest =>
    newLine depth ++ item.renderAt depth ++ (if rest.isEmpty then [] else [',']) ++
      renderItems depth rest

/-- The members of an object, each on a line of its own. -/
def renderMembers (depth : Nat) : List (Content × Value) → Text
  | [] => []
  | (name, value) :: rest =>
    newLine depth ++ renderContent name ++ ": ".toList ++ value.renderAt depth ++
      (if rest.isEmpty then [] else [',']) ++ renderMembers depth rest

end

/-- A value over several lines. -/
def Value.render (v : Value) : Text :=
  v.renderAt 0

end LinkTemplate.Json
