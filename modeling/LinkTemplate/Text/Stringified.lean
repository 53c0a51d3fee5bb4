import LinkTemplate.Text.Basic

/-!
# Stringified texts

`stringify` makes a text a string literal: backslashes are doubled first, then each quote, line
feed, carriage return and tab becomes a backslash with a letter, and double quotes go around.
The replacements run one after the other over the whole text, and the backslash has to come
first: a later step would double the backslashes that an earlier one wrote.
-/

namespace LinkTemplate.Text

/-- The text with every `c` replaced by `replacement`. -/
def replaceChar (c : Char) (replacement t : Text) : Text :=
  t.flatMap fun x => if x = c then replacement else [x]

/-- The text with the five escapes of a string literal. -/
def escaped (t : Text) : Text :=
  replaceChar '\t' ['\\', 't'] <|
  replaceChar '\r' ['\\', 'r'] <|
  replaceChar '\n' ['\\', 'n'] <|
  replaceChar '"' ['\\', '"'] <|
  replaceChar '\\' ['\\', '\\'] t

/-- The text as a string literal. -/
def stringify (t : Text) : Text :=
  '"' :: escaped t ++ ['"']

theorem replaceChar_append (c : Char) (r s t : Text) :
    replaceChar c r (s ++ t) = replaceChar c r s ++ replaceChar c r t := by
  simp [replaceChar]

theorem escaped_append (s t : Text) : escaped (s ++ t) = escaped s ++ escaped t := by
  simp only [escaped, replaceChar_append]

end LinkTemplate.Text
