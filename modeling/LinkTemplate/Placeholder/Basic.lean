import LinkTemplate.Text.Basic

/-!
# Placeholders

What stands between the braces of a placeholder: its kind, with the attributes that belong to
it, and the names of the modifiers that its value goes through.
-/

namespace LinkTemplate

/-- One of the values offered for an argument, with the label it is shown by. -/
structure Choice where
  label : Text
  value : Text
deriving DecidableEq, Repr

/-- Which part of the reference time a placeholder shows. -/
inductive DateStyle where
  | date
  | time
  | datetime
deriving DecidableEq, Repr

/-- The word that names a style. -/
def DateStyle.keyword : DateStyle → Text
  | .date => "date".toList
  | .time => "time".toList
  | .datetime => "datetime".toList

/-- Every style. -/
def DateStyle.all : List DateStyle :=
  [.date, .time, .datetime]

/-- The patterns of the date styles, for placeholders without a format of their own. -/
structure DatePatterns where
  date : Text := "MMM d, yyyy".toList
  time : Text := "h:mm a".toList
  datetime : Text := "MMM d, yyyy, h:mm a".toList
deriving DecidableEq, Repr

/-- The pattern of a style. -/
def DatePatterns.pattern (patterns : DatePatterns) : DateStyle → Text
  | .date => patterns.date
  | .time => patterns.time
  | .datetime => patterns.datetime

/-- The attributes of a date placeholder. -/
structure DateSpec where
  /-- The pattern to write the time by, in place of the one of the style. -/
  format : Option Text := none
  /-- The offset token to shift the time by. -/
  offset : Option Text := none
deriving DecidableEq, Repr

namespace Placeholder

/-- What a placeholder stands for. -/
inductive Kind where
  /-- A value supplied under a name, or else a default. -/
  | argument (name : Text) (default : Option Text) (choices : Option (List Choice))
  | clipboard
  | selection
  /-- The reference time. -/
  | dated (style : DateStyle) (spec : DateSpec)
  /-- Anything else, left as it is. -/
  | unknown (raw : Text)
deriving DecidableEq, Repr

/-- A defect of one placeholder, with the content that shows it. -/
inductive Defect where
  | missingName (content : Text)
  | unbalancedQuote (content : Text)
deriving DecidableEq, Repr

/-- The words for a defect. -/
def Defect.message : Defect → Text
  | .missingName content =>
    "argument placeholder ".toList ++ '{' :: content ++
      '}' :: " is missing a name attribute".toList
  | .unbalancedQuote content =>
    "malformed placeholder ".toList ++ '{' :: content ++
      '}' :: ": unbalanced quote".toList

end Placeholder

/-- The parsed content of a placeholder. -/
structure Placeholder where
  kind : Placeholder.Kind
  /-- The modifier names as written, in order. -/
  modifiers : List Text
deriving DecidableEq, Repr

/-- Whether a value has to be supplied: the placeholder is an argument without a default. -/
def Placeholder.isRequired (p : Placeholder) : Bool :=
  match p.kind with
  | .argument _ none _ => true
  | _ => false

end LinkTemplate
