import LinkTemplate.Text.Hexadecimal
import LinkTemplate.Text.Quoted.Table

/-!
# Quoted texts

`quoted` writes a text between double quotes for a reader to see every character of it: a
quote, a backslash and the five characters with a short escape are written with a backslash, and
the other characters that would not show are written by code point, as in `\u{ad}`.
-/

namespace LinkTemplate.Text

/-- Whether a character is written by code point inside a quoted text. -/
def isHidden (c : Char) : Bool :=
  if c.toNat < 0x80 then c.toNat < 0x20 || c.toNat == 0x7F else within hiddenRanges c

/-- A character as it is written inside a quoted text. -/
def quotedChar (c : Char) : Text :=
  match c with
  | '"' => ['\\', '"']
  | '\\' => ['\\', '\\']
  | '\n' => ['\\', 'n']
  | '\r' => ['\\', 'r']
  | '\t' => ['\\', 't']
  | '\x00' => ['\\', '0']
  | c => if isHidden c then ['\\', 'u', '\x7b'] ++ hexadecimal c.toNat ++ ['\x7d'] else [c]

/-- A text between double quotes, with every character visible. -/
def quoted (t : Text) : Text :=
  '"' :: t.flatMap quotedChar ++ ['"']

end LinkTemplate.Text
