import LinkTemplate.Proofs.Expansion.Substitution
import LinkTemplate.Proofs.Expansion.Supply
import LinkTemplate.Proofs.Inventory.Declarations

/-!
# Required arguments

An inventory lists a name once, as its first placeholder declares it, and an expansion decides
at each placeholder by itself whether a value is missing (`expand_missing_eq`). The two agree on
what has to be supplied unless a name is declared first with a default and again without one :
such a name is not listed as required, and its second placeholder goes without a value.
-/

namespace LinkTemplate

open Template

/-! ## Missing names -/

/-- The name of an argument that has neither a value nor a default. -/
def Argument.missing? (inputs : Inputs) (a : Argument) : Option Text :=
  if a.isRequired = true ∧ ¬inputs.Supplies a.name then some a.name else none

theorem Placeholder.Kind.missing?_resolve (inputs : Inputs) (kind : Placeholder.Kind) :
    (kind.resolve inputs).missing? = kind.argument?.bind (Argument.missing? inputs) := by
  cases kind with
  | argument name default choices =>
    cases hlookup : inputs.arguments.lookup name <;> cases default <;>
      simp [resolve, argument?, Argument.missing?, Argument.isRequired, Inputs.Supplies,
        Outcome.missing?, hlookup]
  | clipboard => exact Outcome.missing?_ofValue? _
  | selection => exact Outcome.missing?_ofValue? _
  | dated style spec => rfl
  | unknown raw => rfl

/-- The missing names are those of the declarations without a default and without a value. -/
theorem expand_missing_eq (template : Text) (inputs : Inputs) :
    (expand template inputs).missing =
      (declarations template).filterMap (Argument.missing? inputs) := by
  rw [expand_missing, declarations, kinds, List.filterMap_filterMap, List.filterMap_filterMap]
  congr 1
  funext content
  cases hparse : Placeholder.parse content with
  | error d =>
    rw [resolve_of_error hparse]
    rfl
  | ok p =>
    rw [resolve_of_ok hparse, Outcome.missing?_modify, Placeholder.Kind.missing?_resolve]
    rfl

theorem mem_missing_iff {template name : Text} {inputs : Inputs} :
    name ∈ (expand template inputs).missing ↔
      ¬inputs.Supplies name ∧ ∃ a ∈ declarations template, a.name = name ∧ a.isRequired = true := by
  rw [expand_missing_eq, List.mem_filterMap]
  constructor
  · rintro ⟨a, ha, h⟩
    simp only [Argument.missing?, Option.ite_none_right_eq_some, Option.some.injEq] at h
    obtain ⟨⟨hrequired, hsupplies⟩, rfl⟩ := h
    exact ⟨hsupplies, a, ha, rfl, hrequired⟩
  · rintro ⟨hsupplies, a, ha, rfl, hrequired⟩
    exact ⟨a, ha, if_pos ⟨hrequired, hsupplies⟩⟩

/-! ## Listed names -/

theorem mem_required_iff {template : Text} {a : Argument} :
    a ∈ (Inventory.ofTemplate template).required ↔
      a ∈ (Inventory.ofTemplate template).arguments ∧ a.isRequired = true := by
  rw [Inventory.required, List.mem_filter]

/-- A name is listed once. -/
theorem arguments_unique {template : Text} {a b : Argument}
    (ha : a ∈ (Inventory.ofTemplate template).arguments)
    (hb : b ∈ (Inventory.ofTemplate template).arguments) (h : a.name = b.name) : a = b := by
  rw [Inventory.mem_arguments_iff] at ha hb
  rw [h] at ha
  exact Option.some.inj (ha.symm.trans hb)

/-- Every name declared without a default is declared without one the first time. -/
def RequiredFirst (template : Text) : Prop :=
  ∀ a ∈ declarations template, a.isRequired = true →
    ∀ b ∈ (Inventory.ofTemplate template).arguments, b.name = a.name → b.isRequired = true

instance (template : Text) : Decidable (RequiredFirst template) :=
  inferInstanceAs (Decidable (∀ a ∈ _, _ → ∀ b ∈ _, _ → _))

/-- A name that is missing though all required ones are supplied is listed with a default, and
declared again without one. -/
theorem declared_twice_of_missing {template : Text} {inputs : Inputs}
    (h : ∀ a ∈ (Inventory.ofTemplate template).required, inputs.Supplies a.name) {name : Text}
    (hname : name ∈ (expand template inputs).missing) :
    (∃ a ∈ declarations template, a.name = name ∧ a.isRequired = true) ∧
      ∃ b ∈ (Inventory.ofTemplate template).arguments, b.name = name ∧ b.isRequired = false := by
  obtain ⟨hsupplies, a, ha, rfl, hrequired⟩ := mem_missing_iff.mp hname
  obtain ⟨b, hb, hba⟩ := Inventory.exists_mem_arguments ha
  refine ⟨⟨a, ha, rfl, hrequired⟩, b, hb, hba, ?_⟩
  cases hlisted : b.isRequired with
  | false => rfl
  | true => exact absurd (hba ▸ h b (mem_required_iff.mpr ⟨hb, hlisted⟩)) hsupplies

/-- Inputs with an empty value for every required argument and nothing else. -/
def requiredOnly (template : Text) : Inputs where
  arguments := (Inventory.ofTemplate template).required.map fun a => (a.name, [])
  reference := default

theorem supplies_requiredOnly_iff {template name : Text} :
    (requiredOnly template).Supplies name ↔
      ∃ a ∈ (Inventory.ofTemplate template).required, a.name = name := by
  rw [Inputs.Supplies, List.lookup_isSome_iff]
  constructor
  · rintro ⟨p, hp, hname⟩
    obtain ⟨a, ha, rfl⟩ := List.mem_map.mp hp
    exact ⟨a, ha, (beq_iff_eq.mp hname).symm⟩
  · rintro ⟨a, ha, rfl⟩
    exact ⟨_, List.mem_map_of_mem ha, beq_self_eq_true _⟩

/-- Supplying the required arguments is enough exactly if `RequiredFirst` holds. -/
theorem missing_eq_nil_iff_requiredFirst (template : Text) :
    (∀ inputs : Inputs, (∀ a ∈ (Inventory.ofTemplate template).required,
      inputs.Supplies a.name) → (expand template inputs).missing = []) ↔
      RequiredFirst template := by
  constructor
  · intro h a ha hrequired b hb hba
    have hmissing := h (requiredOnly template)
      fun c hc => supplies_requiredOnly_iff.mpr ⟨c, hc, rfl⟩
    have hsupplies : (requiredOnly template).Supplies a.name := by
      refine Decidable.byContradiction fun hnot => ?_
      have := mem_missing_iff.mpr ⟨hnot, a, ha, rfl, hrequired⟩
      simp [hmissing] at this
    obtain ⟨c, hc, hca⟩ := supplies_requiredOnly_iff.mp hsupplies
    obtain ⟨hclisted, hcrequired⟩ := mem_required_iff.mp hc
    rw [arguments_unique hb hclisted (hba.trans hca.symm)]
    exact hcrequired
  · intro h inputs hsupplied
    refine List.eq_nil_iff_forall_not_mem.mpr fun name hname => ?_
    obtain ⟨⟨a, ha, rfl, hrequired⟩, b, hb, hba, hfalse⟩ :=
      declared_twice_of_missing hsupplied hname
    simp [h a ha hrequired b hb hba] at hfalse

/-- If all required arguments are supplied, a missing name is one that is listed with a default
and declared again without one. So nothing is missing under any such inputs exactly if no name
is declared in that way. -/
theorem required_suffice_unless_redeclared (template : Text) :
    (∀ inputs : Inputs, (∀ a ∈ (Inventory.ofTemplate template).required,
      inputs.Supplies a.name) → ∀ name ∈ (expand template inputs).missing,
        (∃ a ∈ declarations template, a.name = name ∧ a.isRequired = true) ∧
          ∃ b ∈ (Inventory.ofTemplate template).arguments,
            b.name = name ∧ b.isRequired = false) ∧
    ((∀ inputs : Inputs, (∀ a ∈ (Inventory.ofTemplate template).required,
      inputs.Supplies a.name) → (expand template inputs).missing = []) ↔
      RequiredFirst template) :=
  ⟨fun _ h _ => declared_twice_of_missing h, missing_eq_nil_iff_requiredFirst template⟩

/-- A name declared without a default and then with one, and the other way around. -/
theorem required_suffice_unless_redeclared_default :
    let bare := '{' :: "argument name=\"a\"".toList ++ ['}']
    let defaulted := '{' :: "argument name=\"a\" default=\"x\"".toList ++ ['}']
    let inputs : Inputs := { arguments := [("a".toList, "v".toList)], reference := default }
    let nothing : Inputs := { reference := default }
    (RequiredFirst (bare ++ defaulted) ∧
      (∀ a ∈ (Inventory.ofTemplate (bare ++ defaulted)).required, inputs.Supplies a.name) ∧
      (expand (bare ++ defaulted) inputs).missing = []) ∧
    (∀ a ∈ (Inventory.ofTemplate (defaulted ++ bare)).required, nothing.Supplies a.name) ∧
      "a".toList ∈ (expand (defaulted ++ bare) nothing).missing ∧
      ∃ b ∈ (Inventory.ofTemplate (defaulted ++ bare)).arguments,
        b.name = "a".toList ∧ b.isRequired = false := by
  intro bare defaulted inputs nothing
  have hfirst : RequiredFirst (bare ++ defaulted) := by decide +kernel
  have hsupplied : ∀ a ∈ (Inventory.ofTemplate (bare ++ defaulted)).required,
      inputs.Supplies a.name := by decide +kernel
  have hnothing : ∀ a ∈ (Inventory.ofTemplate (defaulted ++ bare)).required,
      nothing.Supplies a.name := by decide +kernel
  have hmissing : "a".toList ∈ (expand (defaulted ++ bare) nothing).missing := by decide +kernel
  have hempty := (required_suffice_unless_redeclared (bare ++ defaulted)).2.mpr hfirst
  have hlisted := (required_suffice_unless_redeclared (defaulted ++ bare)).1 nothing hnothing
  exact ⟨⟨hfirst, hsupplied, hempty inputs hsupplied⟩, hnothing, hmissing,
    (hlisted _ hmissing).2⟩

/-- A name declared with a default and then without one is missing though it is not required. -/
theorem required_not_sufficient :
    ¬∀ (template : Text) (inputs : Inputs),
      (∀ a ∈ (Inventory.ofTemplate template).required, inputs.Supplies a.name) →
        (expand template inputs).missing = [] := by
  intro h
  let template := '{' :: "argument name=\"a\" default=\"x\"".toList ++ '}' :: '{' ::
    "argument name=\"a\"".toList ++ ['}']
  have hrequired : (Inventory.ofTemplate template).required = [] := by decide +kernel
  have hmissing : (expand template { reference := default }).missing = ["a".toList] := by
    decide +kernel
  have hnil := h template { reference := default } (by simp [hrequired])
  exact List.cons_ne_nil _ _ (hmissing.symm.trans hnil)

end LinkTemplate
