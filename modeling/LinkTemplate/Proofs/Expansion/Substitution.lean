import LinkTemplate.Expansion
import LinkTemplate.Proofs.Template.Pieces

/-!
# Expansion as substitution

`Substitutes` says what expanding a template means without positions, spans or gaps : a
placeholder at the start of the text is replaced by its value or stays as it is, and any other
character is copied. Each rule goes on behind what it has read, so a value that was put in is
not read again. The relation holds of one expansion for each template and inputs, the one that
`expand` computes (`substitutes_expand`, `eq_expand_of_substitutes`).

The expansion of a template is read off its pieces : `expand_url`, `expand_missing` and
`expand_defects`.
-/

namespace LinkTemplate

open Template

/-! ## Expansion by pieces -/

/-- The text that an expansion shows for the placeholder with the given content : its value, or
the placeholder as it is written. -/
def shown (inputs : Inputs) (content : Text) : Text :=
  (resolve inputs content).value?.getD ('{' :: content ++ ['}'])

/-- The words for the defects of an expansion, in order. -/
def Expansion.errors (e : Expansion) : List Text :=
  e.defects.map (·.message)

theorem expand_url (template : Text) (inputs : Inputs) :
    (expand template inputs).url = (pieces template).flatMap (Piece.fill (shown inputs)) := by
  rw [← fill_spans]
  simp only [expand, outcomes, List.map_map]
  refine congrArg (fill template) (List.map_congr_left fun s hs => ?_)
  simp [shown, slice_span hs, Span.source]

theorem expand_missing (template : Text) (inputs : Inputs) :
    (expand template inputs).missing =
      (contents template).filterMap fun content => (resolve inputs content).missing? := by
  rw [← map_content_spans]
  simp only [expand, outcomes, List.filterMap_map]
  rfl

theorem expand_defects (template : Text) (inputs : Inputs) :
    (expand template inputs).defects =
      (contents template).filterMap fun content => (resolve inputs content).defect? := by
  rw [← map_content_spans]
  simp only [expand, outcomes, List.filterMap_map]
  rfl

theorem expand_eq (template : Text) (inputs : Inputs) :
    expand template inputs =
      { url := (pieces template).flatMap (Piece.fill (shown inputs))
        missing := (contents template).filterMap fun content => (resolve inputs content).missing?
        defects := (contents template).filterMap fun content => (resolve inputs content).defect? } := by
  rw [← expand_url, ← expand_missing, ← expand_defects]

/-- An expansion depends on the inputs only through what becomes of the placeholders. -/
theorem expand_congr {template : Text} {x y : Inputs}
    (h : ∀ s ∈ spans template, resolve x s.content = resolve y s.content) :
    expand template x = expand template y := by
  have houtcomes : outcomes template x = outcomes template y :=
    List.map_congr_left fun s hs => by rw [h s hs]
  simp only [expand, houtcomes]

/-- An expansion succeeds if nothing is missing and nothing defective. -/
theorem succeeded_iff (e : Expansion) : e.succeeded = true ↔ e.missing = [] ∧ e.errors = [] := by
  simp [Expansion.succeeded, Expansion.errors]

/-! ## One step -/

theorem expand_nil (inputs : Inputs) : expand [] inputs = ⟨[], [], []⟩ := rfl

/-- The placeholder at the start of a text, and then the rest. -/
theorem expand_of_leads {content after text : Text} (h : Leads content after text)
    (inputs : Inputs) :
    expand text inputs =
      { url := shown inputs content ++ (expand after inputs).url
        missing := (resolve inputs content).missing?.toList ++ (expand after inputs).missing
        defects := (resolve inputs content).defect?.toList ++ (expand after inputs).defects } := by
  rw [expand_eq text, expand_eq after, pieces_of_leads h, contents_of_leads h]
  simp only [filterMap_eq_flatMap, List.flatMap_cons, Piece.fill]

/-- A character that starts no placeholder, and then the rest. -/
theorem expand_of_not_leads {c : Char} {rest : Text}
    (h : ∀ content after, ¬Leads content after (c :: rest)) (inputs : Inputs) :
    expand (c :: rest) inputs =
      { expand rest inputs with url := c :: (expand rest inputs).url } := by
  rw [expand_eq (c :: rest), expand_eq rest, pieces_of_not_leads h, contents_of_not_leads h]
  simp only [List.flatMap_cons, Piece.fill, List.singleton_append]

/-! ## Substitution -/

/-- `Substitutes inputs template url missing errors` : reading the template from the left, with
the outcome of each placeholder put in its place once, gives the text `url`, the names of the
missing arguments and the words for the defects. -/
inductive Substitutes (inputs : Inputs) : (template url : Text) → (missing errors : List Text) → Prop
  | empty : Substitutes inputs [] [] [] []
  | resolved {content after text value url : Text} {missing errors : List Text} :
      Leads content after text → resolve inputs content = .resolved value →
      Substitutes inputs after url missing errors →
      Substitutes inputs text (value ++ url) missing errors
  | kept {content after text url : Text} {missing errors : List Text} :
      Leads content after text → resolve inputs content = .kept →
      Substitutes inputs after url missing errors →
      Substitutes inputs text ('{' :: content ++ '}' :: url) missing errors
  | missing {content after text name url : Text} {missing errors : List Text} :
      Leads content after text → resolve inputs content = .missing name →
      Substitutes inputs after url missing errors →
      Substitutes inputs text ('{' :: content ++ '}' :: url) (name :: missing) errors
  | failed {content after text url : Text} {defect : Placeholder.Defect}
      {missing errors : List Text} :
      Leads content after text → resolve inputs content = .failed defect →
      Substitutes inputs after url missing errors →
      Substitutes inputs text ('{' :: content ++ '}' :: url) missing (defect.message :: errors)
  | copied {c : Char} {rest url : Text} {missing errors : List Text} :
      (∀ content after, ¬Leads content after (c :: rest)) →
      Substitutes inputs rest url missing errors →
      Substitutes inputs (c :: rest) (c :: url) missing errors

/-- The expansion is the result of a substitution. -/
theorem substitutes_expand (template : Text) (inputs : Inputs) :
    Substitutes inputs template (expand template inputs).url (expand template inputs).missing
      (expand template inputs).errors := by
  induction template using leads_induction with
  | nil => exact .empty
  | placeholder content after text hl ih =>
    rw [expand_of_leads hl]
    cases ho : resolve inputs content with
    | resolved value =>
      simpa [shown, ho, Expansion.errors, Outcome.value?, Outcome.missing?, Outcome.defect?] using
        Substitutes.resolved hl ho ih
    | kept =>
      simpa [shown, ho, Expansion.errors, Outcome.value?, Outcome.missing?, Outcome.defect?] using
        Substitutes.kept hl ho ih
    | missing name =>
      simpa [shown, ho, Expansion.errors, Outcome.value?, Outcome.missing?, Outcome.defect?] using
        Substitutes.missing hl ho ih
    | failed defect =>
      simpa [shown, ho, Expansion.errors, Outcome.value?, Outcome.missing?, Outcome.defect?] using
        Substitutes.failed hl ho ih
  | char c rest hnot ih =>
    rw [expand_of_not_leads hnot]
    exact .copied hnot ih

/-- A substitution has no other result than the expansion. -/
theorem eq_expand_of_substitutes {inputs : Inputs} {template url : Text}
    {missing errors : List Text} (h : Substitutes inputs template url missing errors) :
    url = (expand template inputs).url ∧ missing = (expand template inputs).missing ∧
      errors = (expand template inputs).errors := by
  induction h with
  | empty => exact ⟨rfl, rfl, rfl⟩
  | resolved hl ho _ ih | kept hl ho _ ih | missing hl ho _ ih | failed hl ho _ ih =>
    obtain ⟨rfl, rfl, rfl⟩ := ih
    rw [expand_of_leads hl]
    simp [shown, ho, Expansion.errors, Outcome.value?, Outcome.missing?, Outcome.defect?]
  | copied hnot _ ih =>
    obtain ⟨rfl, rfl, rfl⟩ := ih
    rw [expand_of_not_leads hnot]
    exact ⟨rfl, rfl, rfl⟩

/-- A template none of whose placeholders has a value is its own expansion. -/
theorem url_eq_template {template : Text} {inputs : Inputs}
    (h : ∀ s ∈ spans template, (resolve inputs s.content).value? = none) :
    (expand template inputs).url = template := by
  have hsource : ∀ p ∈ pieces template, Piece.fill (shown inputs) p = p.source := by
    intro p hp
    cases p with
    | char c => rfl
    | placeholder content =>
      obtain ⟨s, hs, rfl⟩ := mem_contents_iff_spans.mp (mem_contents.mpr hp)
      simp [Piece.fill, Piece.source, shown, h s hs]
  rw [expand_url, List.flatMap_def, List.map_congr_left hsource, ← List.flatMap_def,
    flatMap_source_pieces]

/-- An expansion is one substitution from left to right, and no other text, names and words come
of it. It succeeds if no name and no words do. Its text is that of the pieces of the template,
which the values have no part in, so that braces in a value open nothing; and if there are no
values it is the template. -/
theorem expand_is_substitution (template : Text) (inputs : Inputs) :
    (∀ url missing errors, Substitutes inputs template url missing errors ↔
      url = (expand template inputs).url ∧ missing = (expand template inputs).missing ∧
        errors = (expand template inputs).errors) ∧
    ((expand template inputs).succeeded = true ↔
      (expand template inputs).missing = [] ∧ (expand template inputs).errors = []) ∧
    (expand template inputs).url = (pieces template).flatMap (Piece.fill (shown inputs)) ∧
    ((∀ s ∈ spans template, (resolve inputs s.content).value? = none) →
      (expand template inputs).url = template) := by
  refine ⟨fun url missing errors => ⟨eq_expand_of_substitutes, ?_⟩, succeeded_iff _,
    expand_url template inputs, url_eq_template⟩
  rintro ⟨rfl, rfl, rfl⟩
  exact substitutes_expand template inputs

/-- Nested, empty and unclosed braces around a clipboard that is not there. -/
theorem expand_is_substitution_kept :
    let template := 'é' :: '{' :: '}' :: '{' :: "clipboard".toList ++ '}' :: '}' :: '{' ::
      "selection | trim".toList ++ ['}', '{', '{', 'x']
    let inputs : Inputs := { reference := default }
    (∀ s ∈ spans template, (resolve inputs s.content).value? = none) ∧
      (expand template inputs).url = template ∧ Substitutes inputs template template [] [] := by
  intro template inputs
  have hkept : ∀ s ∈ spans template, (resolve inputs s.content).value? = none := by decide
  obtain ⟨hiff, -, -, hurl⟩ := expand_is_substitution template inputs
  refine ⟨hkept, hurl hkept, (hiff _ _ _).mpr ⟨(hurl hkept).symm, ?_, ?_⟩⟩ <;> decide

end LinkTemplate
