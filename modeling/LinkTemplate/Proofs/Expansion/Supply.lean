import LinkTemplate.Expansion

/-!
# Supplied arguments

`supply` gives an argument a value, in place of any that it has. Only the placeholders that are
arguments of that very name look at it.
-/

namespace LinkTemplate

/-! ## Reading a placeholder -/

theorem resolve_of_ok {content : Text} {p : Placeholder} (h : Placeholder.parse content = .ok p)
    (inputs : Inputs) : resolve inputs content = (p.kind.resolve inputs).modify p.modifiers := by
  rw [resolve, h]

theorem resolve_of_error {content : Text} {d : Placeholder.Defect}
    (h : Placeholder.parse content = .error d) (inputs : Inputs) :
    resolve inputs content = .failed d := by
  rw [resolve, h]

/-- What becomes of a placeholder depends on the inputs through what becomes of its kind. -/
theorem resolve_congr {content : Text} {x y : Inputs}
    (h : ∀ p, Placeholder.parse content = .ok p → p.kind.resolve x = p.kind.resolve y) :
    resolve x content = resolve y content := by
  cases hparse : Placeholder.parse content with
  | error d => rw [resolve_of_error hparse, resolve_of_error hparse]
  | ok p => rw [resolve_of_ok hparse, resolve_of_ok hparse, h p hparse]

/-- The placeholders that fail in an expansion are those that cannot be parsed. -/
theorem defect?_resolve (inputs : Inputs) (content : Text) :
    (resolve inputs content).defect? =
      match Placeholder.parse content with
      | .ok _ => none
      | .error d => some d := by
  cases hparse : Placeholder.parse content with
  | error d =>
    rw [resolve_of_error hparse]
    rfl
  | ok p => rw [resolve_of_ok hparse, Outcome.defect?_modify, Placeholder.Kind.defect?_resolve]

namespace Inputs

/-! ## Supplying -/

/-- The inputs have a value for an argument. -/
def Supplies (inputs : Inputs) (name : Text) : Prop :=
  (inputs.arguments.lookup name).isSome

instance (inputs : Inputs) (name : Text) : Decidable (inputs.Supplies name) :=
  inferInstanceAs (Decidable (_ = true))

/-- The inputs with a value for an argument, in place of any other. -/
def supply (inputs : Inputs) (name value : Text) : Inputs :=
  { inputs with arguments := (name, value) :: inputs.arguments }

variable (inputs : Inputs) (name value : Text)

@[simp] theorem lookup_supply_self :
    (inputs.supply name value).arguments.lookup name = some value := by
  simp [supply]

theorem lookup_supply_of_ne {other : Text} (h : other ≠ name) :
    (inputs.supply name value).arguments.lookup other = inputs.arguments.lookup other := by
  have hbeq : (other == name) = false := beq_eq_false_iff_ne.mpr h
  rw [supply, List.lookup_cons, hbeq]

theorem supplies_supply_iff {other : Text} :
    (inputs.supply name value).Supplies other ↔ other = name ∨ inputs.Supplies other := by
  by_cases h : other = name
  · subst h
    simp [Supplies]
  · simp [Supplies, inputs.lookup_supply_of_ne name value h, h]

/-- An argument of the name takes the value, whatever its default. -/
theorem resolve_supply_self (default : Option Text) (choices : Option (List Choice)) :
    (Placeholder.Kind.argument name default choices).resolve (inputs.supply name value) =
      .resolved value := by
  simp [Placeholder.Kind.resolve]

/-- Any other placeholder is left as it was. -/
theorem resolve_supply_of_ne {kind : Placeholder.Kind}
    (h : ∀ default choices, kind ≠ .argument name default choices) :
    kind.resolve (inputs.supply name value) = kind.resolve inputs := by
  cases kind with
  | argument other default choices =>
    have hne : other ≠ name := fun he => h default choices (he ▸ rfl)
    simp only [Placeholder.Kind.resolve, inputs.lookup_supply_of_ne name value hne]
  | clipboard => rfl
  | selection => rfl
  | dated style spec => rfl
  | unknown raw => rfl

end Inputs

end LinkTemplate
