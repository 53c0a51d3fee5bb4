import LinkTemplate.Calendar.Offset
import LinkTemplate.Calendar.Pattern
import LinkTemplate.Message
import LinkTemplate.Modifier
import LinkTemplate.Placeholder.Parser
import LinkTemplate.Template.Span

/-!
# Expanding a template

`expand` puts the value of each placeholder in its place. A placeholder takes its value from the
inputs and runs it through its modifiers. A placeholder without a value stays as it is written :

* one of the unknown kind, and a clipboard or selection that is not there, is kept;
* an argument that is neither supplied nor has a default is missing;
* one that cannot be parsed is a defect.

Values are never searched for placeholders.
-/

namespace LinkTemplate

/-! ## Inputs -/

/-- Values of arguments by name. Of two values for one name the first counts. -/
abbrev Bindings := List (Text × Text)

/-- What the placeholders of a template take their values from. -/
structure Inputs where
  arguments : Bindings := []
  clipboard : Option Text := none
  selection : Option Text := none
  /-- The time that dates are written from. -/
  reference : Instant
  patterns : DatePatterns := {}
deriving DecidableEq, Repr

/-- The text of a date placeholder. -/
def DateSpec.render (spec : DateSpec) (defaultPattern : Text) (reference : Instant) : Text :=
  Pattern.format ((spec.offset.map reference.shiftBy).getD reference)
    (spec.format.getD defaultPattern)

/-! ## One placeholder -/

/-- What becomes of a placeholder. -/
inductive Outcome where
  | resolved (value : Text)
  /-- The placeholder stays as it is. -/
  | kept
  | missing (name : Text)
  | failed (defect : Placeholder.Defect)
deriving DecidableEq, Repr

namespace Outcome

/-- The value of a resolved placeholder. -/
def value? : Outcome → Option Text
  | .resolved value => some value
  | _ => none

/-- The name of a missing argument. -/
def missing? : Outcome → Option Text
  | .missing name => some name
  | _ => none

/-- The defect of a placeholder that cannot be parsed. -/
def defect? : Outcome → Option Placeholder.Defect
  | .failed defect => some defect
  | _ => none

/-- A value if there is one, and otherwise the placeholder as it is. -/
def ofValue? (value? : Option Text) : Outcome :=
  (value?.map resolved).getD kept

/-- The outcome with a resolved value run through modifiers. -/
def modify (modifiers : List Text) : Outcome → Outcome
  | .resolved value => .resolved (Modifier.applyAll modifiers value)
  | outcome => outcome

@[simp] theorem missing?_modify (modifiers : List Text) (outcome : Outcome) :
    (outcome.modify modifiers).missing? = outcome.missing? := by
  cases outcome <;> rfl

@[simp] theorem defect?_modify (modifiers : List Text) (outcome : Outcome) :
    (outcome.modify modifiers).defect? = outcome.defect? := by
  cases outcome <;> rfl

@[simp] theorem missing?_ofValue? (value? : Option Text) : (ofValue? value?).missing? = none := by
  cases value? <;> rfl

@[simp] theorem defect?_ofValue? (value? : Option Text) : (ofValue? value?).defect? = none := by
  cases value? <;> rfl

end Outcome

/-- What becomes of a kind of placeholder, in front of its modifiers. -/
def Placeholder.Kind.resolve (inputs : Inputs) : Placeholder.Kind → Outcome
  | .argument name default _ =>
    match (inputs.arguments.lookup name).or default with
    | some value => .resolved value
    | none => .missing name
  | .clipboard => .ofValue? inputs.clipboard
  | .selection => .ofValue? inputs.selection
  | .dated style spec =>
    .resolved (spec.render (inputs.patterns.pattern style) inputs.reference)
  | .unknown _ => .kept

@[simp] theorem Placeholder.Kind.defect?_resolve (inputs : Inputs) (kind : Placeholder.Kind) :
    (kind.resolve inputs).defect? = none := by
  cases kind with
  | argument name default choices =>
    rw [resolve]
    split <;> rfl
  | clipboard => exact Outcome.defect?_ofValue? _
  | selection => exact Outcome.defect?_ofValue? _
  | dated style spec => rfl
  | unknown raw => rfl

/-- What becomes of the placeholder with the given content. -/
def resolve (inputs : Inputs) (content : Text) : Outcome :=
  match Placeholder.parse content with
  | .ok p => (p.kind.resolve inputs).modify p.modifiers
  | .error defect => .failed defect

/-! ## The whole template -/

/-- An expanded template. -/
structure Expansion where
  /-- The template with the values in place. -/
  url : Text
  /-- The names of missing arguments, in order and with duplicates. -/
  missing : List Text
  /-- The defects of placeholders, in order. -/
  defects : List Placeholder.Defect
deriving DecidableEq, Repr

/-- Whether every placeholder that needs a value has one. -/
def Expansion.succeeded (e : Expansion) : Bool :=
  e.missing.isEmpty && e.defects.isEmpty

/-- The spans of a template with what becomes of each. -/
def outcomes (template : Text) (inputs : Inputs) : List (Span × Outcome) :=
  (Template.spans template).map fun s => (s, resolve inputs s.content)

/-- The template with the value of each placeholder in its place. -/
def expand (template : Text) (inputs : Inputs) : Expansion :=
  let results := outcomes template inputs
  { url := Template.fill template <| results.map fun (s, outcome) =>
      (s, outcome.value?.getD (Text.slice s.start s.stop template))
    missing := results.filterMap (·.2.missing?)
    defects := results.filterMap (·.2.defect?) }

/-- The messages for what kept an expansion from succeeding. -/
def Expansion.messages (e : Expansion) : List Message :=
  e.missing.map (fun name => ⟨.warning, "Missing argument: ".toList ++ name⟩) ++
    e.defects.map fun defect => ⟨.error, defect.message⟩

end LinkTemplate
