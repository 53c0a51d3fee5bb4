import LinkTemplate.Placeholder.Attribute
import LinkTemplate.Placeholder.Choices
import LinkTemplate.Placeholder.Segment

/-!
# Reading placeholders

`Placeholder.parse` reads the content of a placeholder. The first segment decides the kind: a
keyword, with attributes where the kind has them, and any other text is of the unknown kind.
Only an argument without a name is a defect; a name that is empty counts as none.
-/

namespace LinkTemplate

namespace Placeholder

/-- What follows a keyword that a text begins with, where the keyword ends at a blank character
or with the text. -/
def afterKeyword? (keyword base : Text) : Option Text :=
  (Text.afterStart? keyword base).filter fun rest => (rest.head?.map Text.isBlank).getD true

/-- The date attributes of a text. -/
def dateSpec (attributes : Text) : DateSpec where
  format := Attribute.extract "format".toList attributes
  offset := Attribute.extract "offset".toList attributes

/-- The kind of a date placeholder, if the base names a style. -/
def datedKind? (base : Text) : Option Kind :=
  DateStyle.all.findSome? fun style =>
    (afterKeyword? style.keyword base).map fun attributes => .dated style (dateSpec attributes)

/-- The kind of an argument, if its base gives it a name. -/
def argumentKind? (base : Text) : Option Kind :=
  ((Attribute.extract "name".toList base).filter (· ≠ [])).map fun name =>
    .argument name (Attribute.extract "default".toList base)
      ((Attribute.extract "options".toList base).map Choices.parse)

/-- The kind that the first segment of `content` names. -/
def parseBase (base content : Text) : Except Defect Kind :=
  if base = "clipboard".toList then .ok .clipboard
  else if base = "selection".toList then .ok .selection
  else match datedKind? base with
    | some kind => .ok kind
    | none =>
      if "argument".toList.isPrefixOf base then
        match argumentKind? base with
        | some kind => .ok kind
        | none => .error (.missingName content)
      else .ok (.unknown base)

/-- Reads the text between the braces of a placeholder. -/
def parse (content : Text) : Except Defect Placeholder :=
  match Segment.split content with
  | [] => (parseBase [] content).map fun kind => ⟨kind, []⟩
  | base :: rest =>
    (parseBase base content).map fun kind => ⟨kind, rest.filter (· ≠ [])⟩

end Placeholder

end LinkTemplate
