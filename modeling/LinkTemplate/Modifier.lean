import LinkTemplate.Text.Blank
import LinkTemplate.Text.Case
import LinkTemplate.Text.Percent
import LinkTemplate.Text.Stringified

/-!
# Modifiers

A modifier changes the value of a placeholder. The modifiers of a placeholder run in the order
in which they are written; their names match in any case of the ASCII letters, and a name that
no modifier has leaves the value as it is.
-/

namespace LinkTemplate

/-- A change to a text. -/
inductive Modifier where
  | trim
  | uppercase
  | lowercase
  | percentEncode
  | jsonStringify
deriving DecidableEq, Repr

namespace Modifier

/-- Every modifier. -/
def all : List Modifier :=
  [.trim, .uppercase, .lowercase, .percentEncode, .jsonStringify]

/-- The name of a modifier, in small letters. -/
def name : Modifier → Text
  | .trim => "trim".toList
  | .uppercase => "uppercase".toList
  | .lowercase => "lowercase".toList
  | .percentEncode => "percent-encode".toList
  | .jsonStringify => "json-stringify".toList

/-- The modifier of a name. -/
def ofName? (name : Text) : Option Modifier :=
  all.find? fun m => m.name = Text.asciiLower name

/-- The changed text. -/
def apply : Modifier → Text → Text
  | .trim => Text.trim
  | .uppercase => Text.upper
  | .lowercase => Text.lower
  | .percentEncode => Text.Percent.encode
  | .jsonStringify => Text.stringify

/-- The text changed by the modifiers of the names, from the first to the last. -/
def applyAll (names : List Text) (value : Text) : Text :=
  names.foldl (fun value name => ((ofName? name).map (·.apply value)).getD value) value

theorem ofName?_name (m : Modifier) : ofName? m.name = some m := by
  cases m <;> decide

@[simp] theorem applyAll_nil (value : Text) : applyAll [] value = value := rfl

theorem applyAll_append (names more : List Text) (value : Text) :
    applyAll (names ++ more) value = applyAll more (applyAll names value) := by
  simp [applyAll]

end Modifier

end LinkTemplate
