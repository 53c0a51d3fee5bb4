import LinkTemplate.Proofs.Diagnosis.Balance
import LinkTemplate.Proofs.Expansion.Substitution
import LinkTemplate.Proofs.Inventory.Declarations

/-!
# Concatenated templates

What is done with a closed template followed by another is done with the two apart : the
expansion and the inventory of `a ++ b` are put together from those of `a` and of `b`
(`expand_append`, `Inventory.ofTemplate_append`), and if the braces of `a` are balanced as well,
`a ++ b` is valid if both are (`isValid_append`).
-/

namespace LinkTemplate

open Template

/-! ## Expansions -/

/-- One expansion behind another. -/
def Expansion.append (x y : Expansion) : Expansion :=
  ⟨x.url ++ y.url, x.missing ++ y.missing, x.defects ++ y.defects⟩

instance : Append Expansion := ⟨Expansion.append⟩

namespace Expansion

variable (x y : Expansion)

@[simp] theorem url_append : (x ++ y).url = x.url ++ y.url := rfl

@[simp] theorem missing_append : (x ++ y).missing = x.missing ++ y.missing := rfl

@[simp] theorem errors_append : (x ++ y).errors = x.errors ++ y.errors :=
  List.map_append

@[simp] theorem succeeded_append : (x ++ y).succeeded = (x.succeeded && y.succeeded) := by
  rw [Bool.eq_iff_iff]
  simp only [succeeded_iff, missing_append, errors_append, List.append_eq_nil_iff, Bool.and_eq_true]
  exact and_and_and_comm

end Expansion

theorem expand_append {a : Text} (h : Closed a) (b : Text) (inputs : Inputs) :
    expand (a ++ b) inputs = expand a inputs ++ expand b inputs := by
  rw [expand_eq, expand_eq a, expand_eq b, pieces_append h, contents_append h,
    List.flatMap_append, List.filterMap_append, List.filterMap_append]
  rfl

/-! ## Inventories -/

theorem kinds_append {a : Text} (h : Closed a) (b : Text) : kinds (a ++ b) = kinds a ++ kinds b := by
  rw [kinds, contents_append h, List.filterMap_append, kinds, kinds]

/-- The first template declares first : the second adds the arguments of other names. -/
theorem Inventory.ofTemplate_append {a : Text} (h : Closed a) (b : Text) :
    let first := ofTemplate a
    let second := ofTemplate b
    ofTemplate (a ++ b) =
      { arguments := first.arguments ++
          second.arguments.filter (·.name ∉ first.arguments.map (·.name))
        usesClipboard := first.usesClipboard || second.usesClipboard
        usesSelection := first.usesSelection || second.usesSelection
        usesDate := first.usesDate || second.usesDate
        dateFormats := first.dateFormats ++ second.dateFormats } := by
  intro first second
  have hfirsts := firstsFrom_append (first.arguments.map (·.name)) [] (declarations b)
  rw [List.append_nil] at hfirsts
  rw [ofTemplate_eq_foldl, kinds_append h, List.foldl_append, ← ofTemplate_eq_foldl, foldl_add]
  simp only [second, ofTemplate_eq b, ← hfirsts]
  rfl

/-! ## Everything together -/

/-- Two templates, the first of them closed, are read one after the other : the spans of the
second stand further on by the size of the first, an expansion is the two expansions one behind
the other, whatever the inputs, and succeeds if both do, and an inventory lists what the first
needs and then what only the second needs. If the braces of the first are balanced, both are
valid if the whole is. -/
theorem template_append {a : Text} (hclosed : Closed a) (b : Text) :
    spans (a ++ b) = spans a ++ (spans b).map (Span.shift (Text.utf8Size a)) ∧
    (∀ inputs,
      let x := expand a inputs
      let y := expand b inputs
      let both := expand (a ++ b) inputs
      both.url = x.url ++ y.url ∧ both.missing = x.missing ++ y.missing ∧
        both.errors = x.errors ++ y.errors ∧
        (both.succeeded = true ↔ x.succeeded = true ∧ y.succeeded = true)) ∧
    (let x := Inventory.ofTemplate a
      let y := Inventory.ofTemplate b
      let both := Inventory.ofTemplate (a ++ b)
      both.arguments = x.arguments ++ y.arguments.filter (·.name ∉ x.arguments.map (·.name)) ∧
        both.dateFormats = x.dateFormats ++ y.dateFormats ∧
        both.usesClipboard = (x.usesClipboard || y.usesClipboard) ∧
        both.usesSelection = (x.usesSelection || y.usesSelection) ∧
        both.usesDate = (x.usesDate || y.usesDate)) ∧
    (Balanced a → (isValid (a ++ b) = true ↔ isValid a = true ∧ isValid b = true)) := by
  refine ⟨spans_append hclosed b, fun inputs => ?_, ?_,
    fun hbalanced => isValid_append hclosed hbalanced b⟩
  · simp [expand_append hclosed]
  · rw [Inventory.ofTemplate_append hclosed]
    exact ⟨rfl, rfl, rfl, rfl, rfl⟩

/-- An argument that is declared again with another default, behind empty and nested braces ;
the second template is not valid by itself. -/
theorem template_append_redeclared :
    let a := 'é' :: '{' :: "argument name=\"q\" default=\"1\"".toList ++ '}' :: '{' :: '}' ::
      '{' :: 'x' :: '{' :: "date".toList ++ ['}', '}']
    let b := '{' :: "argument name=\"q\"".toList ++ '}' :: '}' :: '{' ::
      "argument name=\"r\"".toList ++ ['}', '{']
    Closed a ∧ Balanced a ∧ isValid (a ++ b) = false ∧
      (spans (a ++ b)).map Span.start = [2, 35, 44, 64] ∧
      (Inventory.ofTemplate (a ++ b)).arguments.map (·.name) = ["q".toList, "r".toList] := by
  intro a b
  have hclosed : Closed a := by decide
  have hbalanced : Balanced a := by decide
  obtain ⟨hspans, -, ⟨harguments, -⟩, hvalid⟩ := template_append hclosed b
  refine ⟨hclosed, hbalanced, ?_, ?_, ?_⟩
  · rw [Bool.eq_false_iff, ne_eq, hvalid hbalanced]
    decide +kernel
  · rw [hspans]
    decide +kernel
  · rw [harguments]
    decide +kernel

end LinkTemplate
