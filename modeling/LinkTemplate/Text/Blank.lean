import LinkTemplate.Text.Basic

/-!
# Blank characters

A character is blank when Unicode gives it the property `White_Space`. `trim` cuts the blank
characters off both ends of a text: what is left neither starts nor ends with one, and trimming
it again keeps it.
-/

namespace LinkTemplate.Text

/-- Whether a character has the property `White_Space`. -/
def isBlank (c : Char) : Bool :=
  within
    [(0x0009, 0x000D), (0x0020, 0x0020), (0x0085, 0x0085), (0x00A0, 0x00A0), (0x1680, 0x1680),
     (0x2000, 0x200A), (0x2028, 0x2029), (0x202F, 0x202F), (0x205F, 0x205F), (0x3000, 0x3000)] c

/-- The text without the blank characters at its start. -/
def trimStart (t : Text) : Text :=
  t.dropWhile isBlank

/-- The text without the blank characters at its end. -/
def trimEnd (t : Text) : Text :=
  (trimStart t.reverse).reverse

/-- The text without the blank characters at its two ends. -/
def trim (t : Text) : Text :=
  trimEnd (trimStart t)

end LinkTemplate.Text
