import LinkTemplate.Diagnosis
import LinkTemplate.Proofs.Template.Append

/-!
# Balanced braces

`Balanced` is the grammar of texts whose braces match. The brace check passes over a balanced
text and finds the braces that were open in front of it open again (`braceProblemsFrom_append`),
and whether it finds a problem depends on how many braces are open, not on where they stand
(`braceProblemsFrom_eq_nil_congr`).
-/

namespace LinkTemplate.Template

/-- Every brace of the text has its partner : texts without braces, and a balanced text between
braces with a balanced text behind. -/
inductive Balanced : Text → Prop
  | nil : Balanced []
  | char {c : Char} {rest : Text} : c ≠ '{' → c ≠ '}' → Balanced rest → Balanced (c :: rest)
  | braces {inner rest : Text} :
      Balanced inner → Balanced rest → Balanced ('{' :: inner ++ '}' :: rest)

theorem braceProblemsFrom_opening (opened : List Nat) (place : Nat) (rest : Text) :
    braceProblemsFrom opened place ('{' :: rest) =
      braceProblemsFrom (place :: opened) (place + 1) rest := by
  cases opened <;> rfl

theorem braceProblemsFrom_closing (innermost : Nat) (opened : List Nat) (place : Nat)
    (rest : Text) :
    braceProblemsFrom (innermost :: opened) place ('}' :: rest) =
      braceProblemsFrom opened (place + 1) rest := rfl

theorem braceProblemsFrom_other {c : Char} (hopening : c ≠ '{') (hclosing : c ≠ '}')
    (opened : List Nat) (place : Nat) (rest : Text) :
    braceProblemsFrom opened place (c :: rest) = braceProblemsFrom opened (place + 1) rest := by
  cases opened <;> rw [braceProblemsFrom, if_neg hopening, if_neg hclosing]

theorem braceProblemsFrom_append {a : Text} (h : Balanced a) (opened : List Nat) (place : Nat)
    (b : Text) :
    braceProblemsFrom opened place (a ++ b) = braceProblemsFrom opened (place + a.length) b := by
  induction h generalizing opened place b with
  | nil => rfl
  | char hopening hclosing _ ih =>
    rw [List.cons_append, braceProblemsFrom_other hopening hclosing, ih, List.length_cons,
      Nat.add_assoc, Nat.add_comm 1]
  | @braces inner rest _ _ ihinner ihrest =>
    have hplace : place + 1 + inner.length + 1 + rest.length =
        place + ('{' :: inner ++ '}' :: rest).length := by
      simp
      omega
    -- the opening brace is the innermost open one again when its partner comes
    rw [List.append_assoc, List.cons_append, List.cons_append, braceProblemsFrom_opening, ihinner,
      braceProblemsFrom_closing, ihrest, hplace]

theorem braceProblemsFrom_eq_nil_congr {opened opened' : List Nat}
    (h : opened.length = opened'.length) (place place' : Nat) (text : Text) :
    braceProblemsFrom opened place text = [] ↔ braceProblemsFrom opened' place' text = [] := by
  induction text generalizing opened opened' place place' with
  | nil => cases opened <;> cases opened' <;> simp_all [braceProblemsFrom]
  | cons c rest ih =>
    unfold braceProblemsFrom
    split
    · exact ih (by simpa using h) _ _
    split
    · cases opened <;> cases opened' <;> simp only [List.length_cons, List.length_nil] at h
      · simp
      · omega
      · omega
      · exact ih (by omega) _ _
    · exact ih h _ _

/-- Behind a balanced text, a text has problems with its braces if it has them by itself. -/
theorem braceProblems_append_eq_nil_iff {a : Text} (h : Balanced a) (b : Text) :
    braceProblems (a ++ b) = [] ↔ braceProblems b = [] := by
  rw [braceProblems, braceProblemsFrom_append h]
  exact braceProblemsFrom_eq_nil_congr rfl _ _ b

theorem braceProblems_of_balanced {a : Text} (h : Balanced a) : braceProblems a = [] := by
  have := (braceProblems_append_eq_nil_iff h []).mpr rfl
  rwa [List.append_nil] at this

/-! ## Texts without problems -/

theorem Balanced.append {a b : Text} (ha : Balanced a) (hb : Balanced b) : Balanced (a ++ b) := by
  induction ha with
  | nil => exact hb
  | char hopening hclosing _ ih => exact .char hopening hclosing ih
  | braces hinner _ _ ih =>
    rw [List.append_assoc, List.cons_append]
    exact .braces hinner ih

/-- The text closes `n` braces that are open in front of it, with balanced texts between. -/
def Closes : Nat → Text → Prop
  | 0, text => Balanced text
  | n + 1, text => ∃ inner rest, Balanced inner ∧ Closes n rest ∧ text = inner ++ '}' :: rest

theorem Closes.append_left {a b : Text} {n : Nat} (ha : Balanced a) (h : Closes n b) :
    Closes n (a ++ b) := by
  cases n with
  | zero => exact ha.append h
  | succ n =>
    obtain ⟨inner, rest, hinner, hrest, rfl⟩ := h
    exact ⟨a ++ inner, rest, ha.append hinner, hrest, by rw [List.append_assoc]⟩

theorem closes_of_braceProblemsFrom {opened : List Nat} {place : Nat} {text : Text}
    (h : braceProblemsFrom opened place text = []) : Closes opened.length text := by
  induction text generalizing opened place with
  | nil =>
    cases opened with
    | nil => exact .nil
    | cons innermost opened => simp [braceProblemsFrom] at h
  | cons c rest ih =>
    by_cases hopening : c = '{'
    · subst hopening
      rw [braceProblemsFrom_opening] at h
      obtain ⟨inner, behind, hinner, hbehind, rfl⟩ := ih h
      have := hbehind.append_left (.braces hinner .nil)
      simpa using this
    by_cases hclosing : c = '}'
    · subst hclosing
      cases opened with
      | nil => simp [braceProblemsFrom] at h
      | cons innermost opened =>
        rw [braceProblemsFrom_closing] at h
        exact ⟨[], rest, .nil, ih h, rfl⟩
    · rw [braceProblemsFrom_other hopening hclosing] at h
      exact (ih h).append_left (.char hopening hclosing .nil)

/-- The brace check accepts the balanced texts. -/
theorem braceProblems_eq_nil_iff {text : Text} : braceProblems text = [] ↔ Balanced text :=
  ⟨closes_of_braceProblemsFrom, braceProblems_of_balanced⟩

instance : DecidablePred Balanced := fun _ => decidable_of_iff _ braceProblems_eq_nil_iff

/-! ## Valid templates -/

/-- A template is valid if its braces have no problem and its placeholders no defect. -/
theorem isValid_iff (template : Text) :
    isValid template = true ↔
      braceProblems template = [] ∧ ∀ content ∈ contents template, defects content = [] := by
  simp only [isValid, problems, List.isEmpty_iff, List.append_eq_nil_iff,
    List.flatMap_eq_nil_iff, spanProblems, List.map_eq_nil_iff, mem_contents_iff_spans]
  refine and_congr_right fun _ => ?_
  constructor
  · rintro h _ ⟨s, hs, rfl⟩
    exact h s hs
  · intro h s hs
    exact h _ ⟨s, hs, rfl⟩

theorem isValid_append {a : Text} (hclosed : Closed a) (hbalanced : Balanced a) (b : Text) :
    isValid (a ++ b) = true ↔ isValid a = true ∧ isValid b = true := by
  simp only [isValid_iff, braceProblems_append_eq_nil_iff hbalanced, contents_append hclosed,
    List.mem_append, or_imp, forall_and, braceProblems_of_balanced hbalanced, true_and]
  exact and_left_comm

end LinkTemplate.Template
