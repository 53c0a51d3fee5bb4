import LinkTemplate.Placeholder.Basic
import LinkTemplate.Text.Blank

/-!
# Lists of choices

The `options` attribute of an argument lists its choices between commas. A choice is written
`label|value`, where the value may hold further pipes, or as one text that is both. Blank
characters around labels and values do not count, and blank choices are skipped.

`print` writes a list back with every label and value spelled out.
-/

namespace LinkTemplate.Choices

/-- The choice that a trimmed, nonempty part of the list writes. -/
def parseChoice (part : Text) : Choice :=
  match Text.cut? '|' part with
  | some (label, value) => ⟨Text.trim label, Text.trim value⟩
  | none => ⟨part, part⟩

/-- The choices of a list, in order and with duplicates. -/
def parse (list : Text) : List Choice :=
  (((Text.splitOn ',' list).map Text.trim).filter (· ≠ [])).map parseChoice

/-- A choice as `label|value`. -/
def printChoice (c : Choice) : Text :=
  c.label ++ '|' :: c.value

/-- A list of choices as `label|value`, with a comma and a blank between neighbours. -/
def print (choices : List Choice) : Text :=
  Text.join ", ".toList (choices.map printChoice)

end LinkTemplate.Choices
