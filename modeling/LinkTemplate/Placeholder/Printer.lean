import LinkTemplate.Placeholder.Choices
import LinkTemplate.Placeholder.Segment

/-!
# Writing placeholders

`Placeholder.print` writes a placeholder as the content that `Placeholder.parse` reads: the
keyword of its kind with every attribute between quotes, and each modifier behind a pipe with a
blank on each side. Pipes of an unknown base and of modifier names are written `\|`.
-/

namespace LinkTemplate

namespace Placeholder

/-- An attribute with its value between quotes, and the blank in front of it. -/
def printAttribute (key value : Text) : Text :=
  ' ' :: key ++ '=' :: '"' :: value ++ ['"']

/-- An attribute that may be absent. -/
def printAttribute? (key : Text) (value? : Option Text) : Text :=
  (value?.map (printAttribute key)).getD []

/-- The base of a placeholder. -/
def Kind.print : Kind → Text
  | .argument name default choices =>
    "argument".toList ++ printAttribute "name".toList name ++
      printAttribute? "default".toList default ++
      printAttribute? "options".toList (choices.map Choices.print)
  | .clipboard => "clipboard".toList
  | .selection => "selection".toList
  | .dated style spec =>
    style.keyword ++ printAttribute? "format".toList spec.format ++
      printAttribute? "offset".toList spec.offset
  | .unknown raw => Segment.escapePipes raw

/-- The content that writes a placeholder. -/
def print (p : Placeholder) : Text :=
  p.kind.print ++ p.modifiers.flatMap fun name => " | ".toList ++ Segment.escapePipes name

end Placeholder

end LinkTemplate
