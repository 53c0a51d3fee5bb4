import LinkTemplate.Diagnosis
import LinkTemplate.Proofs.Inventory.Required

/-!
# Arguments without a name

A placeholder that cannot be parsed is an argument without a name. An expansion leaves it as it
is and says so, and a diagnosis reports it with its place, between reports on braces and quotes
that an expansion does not make. The two say the same of the same placeholders
(`errors_eq_missingNames`), so the defects of an expansion do not depend on the inputs.
-/

namespace LinkTemplate

open Template

/-! ## Reports on missing names -/

/-- The place and the words of a report on an argument without a name. -/
def Problem.missingName? : Problem → Option (Nat × Text)
  | .defect place (.missingName content) =>
    some (place, (Placeholder.Defect.missingName content).message)
  | _ => none

/-- The reports on arguments without a name, in order. -/
def Template.missingNames (template : Text) : List (Nat × Text) :=
  (problems template).filterMap Problem.missingName?

/-- The number of characters in front of a span. -/
def Template.place (template : Text) (s : Span) : Nat :=
  (Text.takeBytes s.start template).length

theorem eq_missingName_of_parseBase {base content : Text} {d : Placeholder.Defect}
    (h : Placeholder.parseBase base content = .error d) : d = .missingName content := by
  unfold Placeholder.parseBase at h
  split at h
  · cases h
  split at h
  · cases h
  split at h
  · cases h
  split at h
  · split at h
    · cases h
    · exact (Except.error.inj h).symm
  · cases h

/-- A placeholder that cannot be parsed is an argument without a name. -/
theorem eq_missingName_of_parse {content : Text} {d : Placeholder.Defect}
    (h : Placeholder.parse content = .error d) : d = .missingName content := by
  have hmap : ∀ {base : Text} {f : Placeholder.Kind → Placeholder},
      (Placeholder.parseBase base content).map f = .error d → d = .missingName content := by
    intro base f hf
    cases hbase : Placeholder.parseBase base content with
    | error e =>
      rw [hbase] at hf
      exact Except.error.inj hf ▸ eq_missingName_of_parseBase hbase
    | ok kind => simp [hbase, Except.map] at hf
  unfold Placeholder.parse at h
  split at h
  · exact hmap h
  · exact hmap h

theorem missingName?_of_mem_braceProblemsFrom {p : Problem} {opened : List Nat} {place : Nat}
    {text : Text} (h : p ∈ braceProblemsFrom opened place text) : p.missingName? = none := by
  induction text generalizing opened place with
  | nil =>
    cases opened with
    | nil => simp [braceProblemsFrom] at h
    | cons q opened =>
      obtain rfl : p = .unclosed q := by simpa [braceProblemsFrom] using h
      rfl
  | cons c rest ih =>
    unfold braceProblemsFrom at h
    split at h
    · exact ih h
    split at h
    · cases opened with
      | nil =>
        rcases List.mem_cons.mp h with rfl | h
        · rfl
        · exact ih h
      | cons q opened => exact ih h
    · exact ih h

/-- At one span, a diagnosis reports a missing name if an expansion fails, with the same words. -/
theorem missingName?_spanProblems (template : Text) (s : Span) (inputs : Inputs) :
    (spanProblems template s).filterMap Problem.missingName? =
      ((resolve inputs s.content).defect?.map fun d => (place template s, d.message)).toList := by
  have hquote : ∀ b : Bool, (if b then [Placeholder.Defect.unbalancedQuote s.content] else
      []).filterMap (Problem.missingName? ∘ .defect (place template s)) = [] := by
    intro b
    cases b <;> rfl
  rw [defect?_resolve, spanProblems, List.filterMap_map, defects, List.filterMap_append]
  refine (congrArg (· ++ _) (hquote _)).trans ?_
  cases hparse : Placeholder.parse s.content with
  | ok p => rfl
  | error d =>
    obtain rfl := eq_missingName_of_parse hparse
    rfl

/-! ## Agreement -/

/-- The reports on missing names are the failures of an expansion, span by span, each at the
place of its span. -/
theorem missingNames_eq (template : Text) (inputs : Inputs) :
    missingNames template = (outcomes template inputs).filterMap fun r =>
      r.2.defect?.map fun d => (place template r.1, d.message) := by
  have hbraces : (braceProblems template).filterMap Problem.missingName? = [] :=
    List.filterMap_eq_nil_iff.mpr fun p hp => missingName?_of_mem_braceProblemsFrom hp
  rw [missingNames, problems, List.filterMap_append, hbraces, List.nil_append,
    List.filterMap_flatMap, outcomes, List.filterMap_map, filterMap_eq_flatMap]
  congr 1
  funext s
  exact missingName?_spanProblems template s inputs

theorem errors_eq_missingNames (template : Text) (inputs : Inputs) :
    (expand template inputs).errors = (missingNames template).map (·.2) := by
  rw [missingNames_eq template inputs, Expansion.errors, expand, List.map_filterMap,
    List.map_filterMap]
  congr 1
  funext r
  cases r.2.defect? <;> rfl

/-- The report of a diagnosis on a missing name : the place, and the words for the defect. -/
theorem message_of_missingName? {p : Problem} {r : Nat × Text} (h : p.missingName? = some r) :
    p.message = "position ".toList ++ Text.decimal r.1 ++ ": ".toList ++ r.2 := by
  rcases p with _ | _ | ⟨place, _ | _⟩ <;> simp only [Problem.missingName?, reduceCtorEq] at h
  obtain rfl := Option.some.inj h
  rfl

theorem map_message_missingNames (ps : List Problem) :
    (ps.filter (·.missingName?.isSome)).map Problem.message =
      (ps.filterMap Problem.missingName?).map fun r =>
        "position ".toList ++ Text.decimal r.1 ++ ": ".toList ++ r.2 := by
  induction ps with
  | nil => rfl
  | cons p ps ih =>
    cases h : p.missingName? with
    | none => simpa [h] using ih
    | some r => simpa [h, message_of_missingName? h] using ih

/-- A span stands behind as many characters as its place says. -/
theorem exists_append_of_place {s : Span} {template : Text} (h : s ∈ spans template) :
    ∃ front back, template = front ++ '{' :: s.content ++ '}' :: back ∧
      s.start = Text.utf8Size front ∧ place template s = front.length := by
  obtain ⟨front, back, htemplate, hstart, -⟩ := exists_append_of_mem_spans h
  refine ⟨front, back, by simpa [Span.source] using htemplate, hstart, ?_⟩
  rw [place, hstart, htemplate, Text.takeBytes_utf8Size_append]

/-- A valid template fails under no inputs. -/
theorem errors_eq_nil_of_isValid {template : Text} (h : isValid template = true)
    (inputs : Inputs) : (expand template inputs).errors = [] := by
  have hproblems : problems template = [] := by simpa [isValid] using h
  rw [errors_eq_missingNames, missingNames, hproblems]
  rfl

/-- Nothing is missing if every listed argument is supplied. -/
theorem missing_eq_nil_of_supplied {template : Text} {inputs : Inputs}
    (h : ∀ a ∈ (Inventory.ofTemplate template).arguments, inputs.Supplies a.name) :
    (expand template inputs).missing = [] := by
  refine List.eq_nil_iff_forall_not_mem.mpr fun name hname => ?_
  obtain ⟨hsupplies, a, ha, rfl, -⟩ := mem_missing_iff.mp hname
  obtain ⟨b, hb, hba⟩ := Inventory.exists_mem_arguments ha
  exact hsupplies (hba ▸ h b hb)

/-- Under all inputs, the errors of an expansion are the words of the missing names that a
diagnosis reports, span by span and in order, where the report on a span gives the number of
characters in front of its brace. A template without problems expands as soon as every argument
listed for it is supplied. -/
theorem diagnosis_agrees (template : Text) :
    (∀ inputs, (expand template inputs).errors = (missingNames template).map (·.2)) ∧
    ((problems template).filter (·.missingName?.isSome)).map Problem.message =
      (missingNames template).map (fun r =>
        "position ".toList ++ Text.decimal r.1 ++ ": ".toList ++ r.2) ∧
    (∀ inputs, missingNames template = (outcomes template inputs).filterMap fun r =>
      r.2.defect?.map fun d => (place template r.1, d.message)) ∧
    (∀ s ∈ spans template, ∃ front back, template = front ++ '{' :: s.content ++ '}' :: back ∧
      s.start = Text.utf8Size front ∧ place template s = front.length) ∧
    (isValid template = true → ∀ inputs : Inputs,
      (∀ a ∈ (Inventory.ofTemplate template).arguments, inputs.Supplies a.name) →
        (expand template inputs).succeeded = true ∧ (expand template inputs).errors = [] ∧
          (expand template inputs).missing = []) := by
  refine ⟨errors_eq_missingNames template, map_message_missingNames _, missingNames_eq template,
    fun s => exists_append_of_place, fun hvalid inputs hsupplied => ?_⟩
  have herrors := errors_eq_nil_of_isValid hvalid inputs
  have hmissing := missing_eq_nil_of_supplied hsupplied
  exact ⟨(succeeded_iff _).mpr ⟨hmissing, herrors⟩, herrors, hmissing⟩

/-- An argument with a pipe in its default, behind a character of two bytes. -/
theorem diagnosis_agrees_valid :
    let template := 'é' :: '{' :: "argument name=\"q\" default=\"a|b\" | trim".toList ++ '}' ::
      '{' :: "argument name=r".toList ++ ['}']
    let inputs : Inputs :=
      { arguments := [("q".toList, "v".toList), ("r".toList, [])], reference := default }
    isValid template = true ∧
      (∀ a ∈ (Inventory.ofTemplate template).arguments, inputs.Supplies a.name) ∧
      (expand template inputs).succeeded = true := by
  intro template inputs
  have hvalid : isValid template = true := by decide +kernel
  have hsupplied : ∀ a ∈ (Inventory.ofTemplate template).arguments, inputs.Supplies a.name := by
    decide +kernel
  obtain ⟨-, -, -, -, hsucceeds⟩ := diagnosis_agrees template
  exact ⟨hvalid, hsupplied, (hsucceeds hvalid inputs hsupplied).1⟩

end LinkTemplate
