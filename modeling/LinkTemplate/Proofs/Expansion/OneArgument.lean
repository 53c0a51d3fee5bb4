import LinkTemplate.Proofs.Inventory.Required
import Mathlib.Data.List.Basic

/-!
# One argument supplied

A value for one argument shows in the placeholders that are arguments of that very name, through the
modifiers of each and whatever its default (`resolve_supply_argument`). Every other placeholder fares
as before (`resolve_supply_other`), also an argument whose name is the same but for capitals or
blanks, and one that cannot be parsed. Of the missing names the one name goes away (`missing_supply`).
-/

namespace LinkTemplate

open Template

variable (inputs : Inputs) (name value : Text)

theorem resolve_supply_argument {content : Text} {default : Option Text}
    {choices : Option (List Choice)} {modifiers : List Text}
    (h : Placeholder.parse content = .ok ⟨.argument name default choices, modifiers⟩) :
    resolve (inputs.supply name value) content = .resolved (Modifier.applyAll modifiers value) := by
  rw [resolve_of_ok h, inputs.resolve_supply_self]
  rfl

theorem resolve_supply_other {content : Text}
    (h : ∀ default choices modifiers,
      Placeholder.parse content ≠ .ok ⟨.argument name default choices, modifiers⟩) :
    resolve (inputs.supply name value) content = resolve inputs content := by
  refine resolve_congr fun p hparse => inputs.resolve_supply_of_ne name value ?_
  intro default choices hkind
  exact h default choices p.modifiers (by rw [hparse, ← hkind])

/-- An argument that was missing still is, unless it is the one that is supplied. -/
theorem missing?_supply (a : Argument) :
    a.missing? (inputs.supply name value) = (a.missing? inputs).filter (· ≠ name) := by
  unfold Argument.missing?
  by_cases hname : a.name = name
  · rw [if_neg (by simp [Inputs.supplies_supply_iff, hname])]
    split <;> simp [hname, Option.filter]
  · simp only [Inputs.supplies_supply_iff, hname, false_or]
    split <;> simp [hname, Option.filter]

theorem missing_supply (template : Text) :
    (expand template (inputs.supply name value)).missing =
      (expand template inputs).missing.filter (· ≠ name) := by
  rw [expand_missing_eq, expand_missing_eq, List.filter_filterMap]
  simp only [missing?_supply]

/-- Whether a placeholder fails does not depend on the inputs. -/
theorem errors_congr (template : Text) (x y : Inputs) :
    (expand template x).errors = (expand template y).errors := by
  rw [Expansion.errors, Expansion.errors, expand_defects, expand_defects]
  simp only [defect?_resolve]

/-- An expansion shows for each span what becomes of its placeholder. -/
theorem url_eq_fill_shown (template : Text) (inputs : Inputs) :
    (expand template inputs).url =
      fill template ((spans template).map fun s => (s, shown inputs s.content)) := by
  rw [fill_spans, expand_url]

/-- A value for one argument, in place of any that it has, changes nothing but that argument. The
words for what fails are the same, and of the missing names that very name goes away, as often as it
is there. The text of every placeholder that is an argument of the name becomes the value run through
its modifiers, whatever its default, and the text of every other one is as before. -/
theorem expand_supply (template : Text) :
    let supplied := inputs.supply name value
    (expand template supplied).errors = (expand template inputs).errors ∧
    (expand template supplied).missing = (expand template inputs).missing.filter (· ≠ name) ∧
    (∀ x, (expand template x).url =
      fill template ((spans template).map fun s => (s, shown x s.content))) ∧
    ∀ s ∈ spans template,
      (∀ default choices modifiers,
        Placeholder.parse s.content = .ok ⟨.argument name default choices, modifiers⟩ →
          shown supplied s.content = Modifier.applyAll modifiers value) ∧
      ((∀ default choices modifiers,
        Placeholder.parse s.content ≠ .ok ⟨.argument name default choices, modifiers⟩) →
          shown supplied s.content = shown inputs s.content) := by
  intro supplied
  refine ⟨errors_congr template supplied inputs, missing_supply inputs name value template,
    url_eq_fill_shown template, fun s _ => ⟨?_, ?_⟩⟩
  · intro default choices modifiers hparse
    rw [shown, resolve_supply_argument inputs name value hparse]
    rfl
  · intro hother
    rw [shown, shown, resolve_supply_other inputs name value hother]

/-- An argument that stands in a template with a default, with a modifier and by itself, beside one of
a name in another case, one of a name with a blank, one without a name and one that has its value. -/
theorem expand_supply_repeated :
    let inputs : Inputs := { arguments := [("r".toList, "1".toList)], reference := default }
    let template := '{' :: "argument name=\"q\" default=\"0\" | uppercase".toList ++ '}' :: '{' ::
      "argument name=\"Q\"".toList ++ '}' :: '{' :: "argument name=\" q\"".toList ++ '}' :: '{' ::
      "argument".toList ++ '}' :: '{' :: "argument name=q | percent-encode".toList ++ '}' :: '{' ::
      "argument name=q".toList ++ '}' :: '{' :: "argument name=r".toList ++ ['}']
    let supplied := inputs.supply "q".toList "a&".toList
    let first : Span := ⟨0, 43, "argument name=\"q\" default=\"0\" | uppercase".toList⟩
    let second : Span := ⟨43, 62, "argument name=\"Q\"".toList⟩
    (expand template inputs).missing =
      ["Q".toList, " q".toList, "q".toList, "q".toList] ∧
    (expand template supplied).missing = ["Q".toList, " q".toList] ∧
    (first ∈ spans template ∧ shown inputs first.content = "0".toList ∧
      Placeholder.parse first.content =
        .ok ⟨.argument "q".toList (some "0".toList) none, ["uppercase".toList]⟩ ∧
      shown supplied first.content = "A&".toList) ∧
    second ∈ spans template ∧
      (∀ default choices modifiers, Placeholder.parse second.content ≠
        .ok ⟨.argument "q".toList default choices, modifiers⟩) ∧
      shown supplied second.content = second.source := by
  intro inputs template supplied first second
  obtain ⟨-, hmissing, -, hshown⟩ := expand_supply inputs "q".toList "a&".toList template
  have hbefore : (expand template inputs).missing =
      ["Q".toList, " q".toList, "q".toList, "q".toList] := by
    decide +kernel
  have hfirst : first ∈ spans template := by decide +kernel
  have hsecond : second ∈ spans template := by decide +kernel
  have hparse : Placeholder.parse first.content =
      .ok ⟨.argument "q".toList (some "0".toList) none, ["uppercase".toList]⟩ := by
    decide +kernel
  have hcapital : Placeholder.parse second.content =
      .ok ⟨.argument "Q".toList none none, []⟩ := by
    decide +kernel
  have hother : ∀ default choices modifiers, Placeholder.parse second.content ≠
      .ok ⟨.argument "q".toList default choices, modifiers⟩ := by
    intro default choices modifiers h
    rw [hcapital] at h
    simp at h
  refine ⟨hbefore, ?_, ⟨hfirst, by decide +kernel, hparse, ?_⟩, hsecond, hother, ?_⟩
  · rw [hmissing, hbefore]
    decide
  · rw [(hshown first hfirst).1 _ _ _ hparse]
    decide +kernel
  · rw [(hshown second hsecond).2 hother]
    decide +kernel

end LinkTemplate
