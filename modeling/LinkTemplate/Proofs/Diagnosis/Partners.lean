import LinkTemplate.Proofs.Diagnosis.Balance
import LinkTemplate.Proofs.Template.Places
import Mathlib.Data.List.Induction

/-!
# Braces and their partners

An opening brace and a closing brace behind it are partners if the text between them is balanced
(`Partners`), and a brace without a partner is lone. The brace check reports every lone closing
brace in order and then the last lone opening brace (`braceProblems_eq`).

The check keeps the places of the open braces. `openAfter` is what it keeps behind a text, and
`Opens` says how that text looks : each open brace has a balanced text behind it, up to the next
open brace or to the end. So a closing brace has a partner if some brace is open in front of it,
and then its partner is the innermost one (`partners_append_iff`), and the braces that are open at
the end are the lone ones (`mem_openAfter_iff`).
-/

namespace LinkTemplate.Template

/-! ## Partners -/

/-- The opening brace at one place and the closing brace at another have a balanced text between
them. -/
structure Partners (template : Text) (opening closing : Nat) : Prop where
  opening_eq : template[opening]? = some '{'
  closing_eq : template[closing]? = some '}'
  lt : opening < closing
  balanced : Balanced ((template.take closing).drop (opening + 1))

/-- A closing brace without a partner. -/
structure LoneClosing (template : Text) (place : Nat) : Prop where
  closing_eq : template[place]? = some '}'
  not_partners : ∀ opening, ¬Partners template opening place

/-- An opening brace without a partner. -/
structure LoneOpening (template : Text) (place : Nat) : Prop where
  opening_eq : template[place]? = some '{'
  not_partners : ∀ closing, ¬Partners template place closing

instance (template : Text) (q p : Nat) : Decidable (Partners template q p) :=
  decidable_of_iff
    (template[q]? = some '{' ∧ template[p]? = some '}' ∧ q < p ∧
      Balanced ((template.take p).drop (q + 1)))
    ⟨fun ⟨h₁, h₂, h₃, h₄⟩ => ⟨h₁, h₂, h₃, h₄⟩, fun ⟨h₁, h₂, h₃, h₄⟩ => ⟨h₁, h₂, h₃, h₄⟩⟩

theorem Partners.closing_lt {template : Text} {q p : Nat} (h : Partners template q p) :
    p < template.length :=
  (List.getElem?_eq_some_iff.mp h.closing_eq).1

instance (template : Text) (place : Nat) : Decidable (LoneClosing template place) :=
  decidable_of_iff (template[place]? = some '}' ∧ ∀ q < place, ¬Partners template q place)
    ⟨fun ⟨h, hnot⟩ => ⟨h, fun q hq => hnot q hq.lt hq⟩,
      fun ⟨h, hnot⟩ => ⟨h, fun q _ => hnot q⟩⟩

instance (template : Text) (place : Nat) : Decidable (LoneOpening template place) :=
  decidable_of_iff
    (template[place]? = some '{' ∧ ∀ p < template.length, ¬Partners template place p)
    ⟨fun ⟨h, hnot⟩ => ⟨h, fun p hp => hnot p hp.closing_lt hp⟩,
      fun ⟨h, hnot⟩ => ⟨h, fun p _ => hnot p⟩⟩

/-- The places of the lone closing braces, from left to right. -/
def loneClosings (template : Text) : List Nat :=
  (List.range template.length).filter (LoneClosing template)

/-- The places of the lone opening braces, from left to right. -/
def loneOpenings (template : Text) : List Nat :=
  (List.range template.length).filter (LoneOpening template)

/-- Partners cut a template into the text in front, the balanced text between and the text
behind. -/
theorem partners_iff {template : Text} {q p : Nat} :
    Partners template q p ↔ ∃ front inner back,
      template = front ++ '{' :: inner ++ '}' :: back ∧ Balanced inner ∧
        front.length = q ∧ (front ++ '{' :: inner).length = p := by
  constructor
  · rintro ⟨hopening, hclosing, hlt, hbalanced⟩
    obtain ⟨before, back, rfl, rfl⟩ := Text.exists_append_of_getElem? hclosing
    rw [List.getElem?_append_left hlt] at hopening
    obtain ⟨front, inner, rfl, rfl⟩ := Text.exists_append_of_getElem? hopening
    rw [List.take_left, Text.drop_length_append] at hbalanced
    exact ⟨front, inner, back, rfl, hbalanced, rfl, rfl⟩
  · rintro ⟨front, inner, back, rfl, hbalanced, rfl, rfl⟩
    refine ⟨?_, Text.getElem?_length_append _ _ _, by simp, ?_⟩
    · rw [List.append_assoc, List.cons_append, Text.getElem?_length_append]
    · rwa [List.take_left, Text.drop_length_append]

theorem Partners.closing_mem_drop {template : Text} {q p : Nat} (h : Partners template q p) :
    '}' ∈ template.drop (q + 1) := by
  obtain ⟨front, inner, back, rfl, -, rfl, -⟩ := partners_iff.mp h
  rw [List.append_assoc, List.cons_append, Text.drop_length_append]
  exact List.mem_append_right _ List.mem_cons_self

theorem partners_of_adjacent {template : Text} {q : Nat} (hopening : template[q]? = some '{')
    (hclosing : template[q + 1]? = some '}') : Partners template q (q + 1) := by
  refine ⟨hopening, hclosing, Nat.lt_succ_self q, ?_⟩
  rw [List.drop_eq_nil_of_le (List.length_take_le _ _)]
  exact .nil

/-- A closing brace ends every balanced text in front of it. -/
theorem not_balanced_append {inner : Text} (h : Balanced inner) (rest : Text) :
    ¬Balanced (inner ++ '}' :: rest) := by
  rw [← braceProblems_eq_nil_iff, braceProblems_append_eq_nil_iff h]
  exact List.cons_ne_nil _ _

/-- A balanced text in front of a closing brace is the longest one. -/
theorem Balanced.length_le {inner inner' back back' : Text} (h : Balanced inner)
    (h' : Balanced inner') (heq : inner ++ '}' :: back = inner' ++ '}' :: back') :
    inner'.length ≤ inner.length := by
  rcases List.append_eq_append_iff.mp heq with ⟨m, rfl, hm⟩ | ⟨m, rfl, -⟩
  · cases m with
    | nil => simp
    | cons c m =>
      obtain ⟨rfl, -⟩ := List.cons.inj hm
      exact absurd h' (not_balanced_append h m)
  · simp

/-- An opening brace has one partner at most. -/
theorem Partners.closing_unique {template : Text} {q p p' : Nat} (h : Partners template q p)
    (h' : Partners template q p') : p = p' := by
  obtain ⟨front, inner, back, htemplate, hinner, hq, rfl⟩ := partners_iff.mp h
  obtain ⟨front', inner', back', htemplate', hinner', hq', rfl⟩ := partners_iff.mp h'
  rw [htemplate, List.append_assoc, List.append_assoc] at htemplate'
  obtain ⟨rfl, hrest⟩ := List.append_inj htemplate' (hq.trans hq'.symm)
  have heq := (List.cons.inj hrest).2
  have hlength := Nat.le_antisymm (hinner'.length_le hinner heq.symm) (hinner.length_le hinner' heq)
  simp [hlength]

/-! ## Open braces -/

/-- The places of the open braces behind one more character. -/
def openStep (opened : List Nat) (place : Nat) (c : Char) : List Nat :=
  if c = '{' then place :: opened else if c = '}' then opened.tail else opened

/-- The places of the braces that are open behind a text at a place, innermost first. -/
def openFrom (opened : List Nat) (place : Nat) : Text → List Nat
  | [] => opened
  | c :: rest => openFrom (openStep opened place c) (place + 1) rest

/-- The places of the braces that are open behind a text, innermost first. -/
def openAfter (text : Text) : List Nat :=
  openFrom [] 0 text

theorem openFrom_append (opened : List Nat) (place : Nat) (a b : Text) :
    openFrom opened place (a ++ b) = openFrom (openFrom opened place a) (place + a.length) b := by
  induction a generalizing opened place with
  | nil => rfl
  | cons c a ih =>
    rw [List.cons_append, openFrom, ih, openFrom, List.length_cons, Nat.add_assoc, Nat.add_comm 1]

theorem openAfter_concat (text : Text) (c : Char) :
    openAfter (text ++ [c]) = openStep (openAfter text) text.length c := by
  rw [openAfter, openFrom_append, Nat.zero_add]
  rfl

/-- Behind a balanced text, the braces are open that were open in front of it. -/
theorem openFrom_of_balanced {a : Text} (h : Balanced a) (opened : List Nat) (place : Nat) :
    openFrom opened place a = opened := by
  induction h generalizing opened place with
  | nil => rfl
  | char hopening hclosing _ ih => rw [openFrom, openStep, if_neg hopening, if_neg hclosing, ih]
  | braces _ _ ihinner ihrest =>
    rw [List.cons_append, openFrom, openFrom_append, ihinner, openFrom, ihrest]
    rfl

theorem openAfter_opening_append {inner : Text} (h : Balanced inner) (front : Text) :
    openAfter (front ++ '{' :: inner) = front.length :: openAfter front := by
  rw [openAfter, openFrom_append, openFrom, openFrom_of_balanced h, Nat.zero_add]
  rfl

/-- Balanced texts stand behind the open braces of a text, given innermost first. -/
def Opens : List Nat → Text → Prop
  | [], _ => True
  | innermost :: opened, text => ∃ front inner, text = front ++ '{' :: inner ∧ Balanced inner ∧
      front.length = innermost ∧ Opens opened front

theorem Opens.append {opened : List Nat} {text a : Text} (h : Opens opened text)
    (ha : Balanced a) : Opens opened (text ++ a) := by
  cases opened with
  | nil => trivial
  | cons innermost opened =>
    obtain ⟨front, inner, rfl, hinner, hlength, hopens⟩ := h
    exact ⟨front, inner ++ a, by simp, hinner.append ha, hlength, hopens⟩

theorem opens_openAfter (text : Text) : Opens (openAfter text) text := by
  induction text using List.reverseRecOn with
  | nil => trivial
  | append_singleton text c ih =>
    rw [openAfter_concat, openStep]
    split
    next hopening =>
      exact ⟨text, [], by rw [hopening], .nil, rfl, ih⟩
    next hopening =>
    split
    next hclosing =>
      cases hopened : openAfter text with
      | nil => trivial
      | cons innermost opened =>
        rw [hopened] at ih
        obtain ⟨front, inner, rfl, hinner, -, hopens⟩ := ih
        have := hopens.append (.braces hinner .nil)
        rwa [hclosing, List.append_assoc, List.cons_append]
    next hclosing => exact ih.append (.char hopening hclosing .nil)

/-- The innermost open brace has a balanced text behind it. -/
theorem exists_append_of_openAfter {text : Text} {q : Nat}
    (h : (openAfter text).head? = some q) :
    ∃ front inner, text = front ++ '{' :: inner ∧ Balanced inner ∧ front.length = q := by
  have hopens := opens_openAfter text
  obtain ⟨opened, hopened⟩ := List.head?_eq_some_iff.mp h
  rw [hopened] at hopens
  obtain ⟨front, inner, htext, hinner, hlength, -⟩ := hopens
  exact ⟨front, inner, htext, hinner, hlength⟩

theorem lt_of_mem_openAfter {text : Text} {q : Nat} (h : q ∈ openAfter text) : q < text.length := by
  induction text using List.reverseRecOn with
  | nil => simp [openAfter, openFrom] at h
  | append_singleton text c ih =>
    rw [List.length_append, List.length_singleton]
    rw [openAfter_concat, openStep] at h
    split at h
    · rcases List.mem_cons.mp h with rfl | h
      · exact Nat.lt_succ_self _
      · exact Nat.lt_succ_of_lt (ih h)
    split at h
    · exact Nat.lt_succ_of_lt (ih (List.mem_of_mem_tail h))
    · exact Nat.lt_succ_of_lt (ih h)

theorem pairwise_openAfter (text : Text) : (openAfter text).Pairwise (· > ·) := by
  induction text using List.reverseRecOn with
  | nil => exact .nil
  | append_singleton text c ih =>
    rw [openAfter_concat, openStep]
    split
    · exact .cons (fun q => lt_of_mem_openAfter) ih
    split
    · exact ih.tail
    · exact ih

/-! ## Lone braces -/

/-- The partner of a closing brace is the innermost brace that is open in front of it. -/
theorem partners_append_iff {front : Text} {c : Char} {back : Text} {q : Nat} :
    Partners (front ++ c :: back) q front.length ↔
      c = '}' ∧ (openAfter front).head? = some q := by
  rw [partners_iff]
  constructor
  · rintro ⟨outer, inner, behind, htemplate, hbalanced, rfl, hlength⟩
    obtain ⟨rfl, hback⟩ := List.append_inj htemplate hlength.symm
    exact ⟨(List.cons.inj hback).1, by rw [openAfter_opening_append hbalanced]; rfl⟩
  · rintro ⟨rfl, hhead⟩
    obtain ⟨outer, inner, rfl, hbalanced, rfl⟩ := exists_append_of_openAfter hhead
    exact ⟨outer, inner, back, rfl, hbalanced, rfl, rfl⟩

theorem loneClosing_append_iff {front : Text} {c : Char} {back : Text} :
    LoneClosing (front ++ c :: back) front.length ↔ c = '}' ∧ openAfter front = [] := by
  have hclosing := Text.getElem?_length_append front c back
  constructor
  · rintro ⟨hc, hnot⟩
    obtain rfl : c = '}' := Option.some.inj (hclosing.symm.trans hc)
    refine ⟨rfl, List.head?_eq_none_iff.mp (Option.eq_none_iff_forall_ne_some.mpr fun q hq => ?_)⟩
    exact hnot q (partners_append_iff.mpr ⟨rfl, hq⟩)
  · rintro ⟨rfl, hopened⟩
    refine ⟨hclosing, fun q hq => ?_⟩
    simpa [hopened] using (partners_append_iff.mp hq).2

/-- One more character has no partner but the innermost open brace. -/
theorem partners_concat_iff {text : Text} {c : Char} {q p : Nat} :
    Partners (text ++ [c]) q p ↔
      Partners text q p ∨ p = text.length ∧ c = '}' ∧ (openAfter text).head? = some q := by
  constructor
  · intro h
    have hlt : p < text.length + 1 := by simpa using h.closing_lt
    rcases Nat.lt_succ_iff_lt_or_eq.mp hlt with hp | rfl
    · obtain ⟨hopening, hclosing, hlt, hbalanced⟩ := h
      rw [List.getElem?_append_left (Nat.lt_trans hlt hp)] at hopening
      rw [List.getElem?_append_left hp] at hclosing
      rw [List.take_append_of_le_length (Nat.le_of_lt hp)] at hbalanced
      exact .inl ⟨hopening, hclosing, hlt, hbalanced⟩
    · exact .inr ⟨rfl, partners_append_iff.mp h⟩
  · rintro (h | ⟨rfl, h⟩)
    · obtain ⟨front, inner, back, rfl, hbalanced, hq, hp⟩ := partners_iff.mp h
      exact partners_iff.mpr ⟨front, inner, back ++ [c], by simp, hbalanced, hq, hp⟩
    · exact partners_append_iff.mpr h

theorem loneOpening_concat_iff {text : Text} {c : Char} {q : Nat} :
    LoneOpening (text ++ [c]) q ↔ c = '{' ∧ q = text.length ∨
      LoneOpening text q ∧ ¬(c = '}' ∧ (openAfter text).head? = some q) := by
  constructor
  · rintro ⟨hopening, hnot⟩
    have hlt : q < text.length + 1 := by
      simpa using (List.getElem?_eq_some_iff.mp hopening).1
    rcases Nat.lt_succ_iff_lt_or_eq.mp hlt with hq | rfl
    · rw [List.getElem?_append_left hq] at hopening
      exact .inr ⟨⟨hopening, fun p hp => hnot p (partners_concat_iff.mpr (.inl hp))⟩,
        fun h => hnot text.length (partners_concat_iff.mpr (.inr ⟨rfl, h⟩))⟩
    · exact .inl ⟨by simpa using hopening, rfl⟩
  · rintro (⟨rfl, rfl⟩ | ⟨⟨hopening, hnot⟩, hhead⟩)
    · refine ⟨by simp, fun p hp => ?_⟩
      have hlt : p < text.length + 1 := by simpa using hp.closing_lt
      exact Nat.not_le_of_gt hlt hp.lt
    · refine ⟨?_, fun p hp => ?_⟩
      · rw [List.getElem?_append_left (List.getElem?_eq_some_iff.mp hopening).1, hopening]
      · rcases partners_concat_iff.mp hp with hp | ⟨-, hp⟩
        · exact hnot p hp
        · exact hhead hp

/-- The braces that are open at the end are the lone ones. -/
theorem mem_openAfter_iff {text : Text} {q : Nat} : q ∈ openAfter text ↔ LoneOpening text q := by
  induction text using List.reverseRecOn with
  | nil =>
    constructor
    · intro h
      cases h
    · rintro ⟨hopening, -⟩
      simp at hopening
  | append_singleton text c ih =>
    rw [loneOpening_concat_iff, ← ih, openAfter_concat, openStep]
    by_cases hopening : c = '{'
    · subst hopening
      simp
    rw [if_neg hopening]
    by_cases hclosing : c = '}'
    · subst hclosing
      -- the innermost open brace is taken away, and the places of the others differ from it
      have hpairwise := pairwise_openAfter text
      cases hopened : openAfter text with
      | nil => simp
      | cons innermost opened =>
        rw [hopened, List.pairwise_cons] at hpairwise
        have hne : q ∈ opened → innermost ≠ q := fun hq => Nat.ne_of_gt (hpairwise.1 q hq)
        have hmem : q ∈ opened ↔ q ∈ innermost :: opened ∧ innermost ≠ q := by
          rw [List.mem_cons]
          grind
        simpa using hmem
    · simp [hopening, hclosing]

theorem mem_loneOpenings {template : Text} {q : Nat} :
    q ∈ loneOpenings template ↔ LoneOpening template q := by
  rw [loneOpenings, List.mem_filter, decide_eq_true_eq, List.mem_range]
  exact and_iff_right_of_imp fun h => (List.getElem?_eq_some_iff.mp h.opening_eq).1

theorem max?_loneOpenings (template : Text) :
    (loneOpenings template).max? = (openAfter template).head? := by
  have hmem : ∀ q, q ∈ loneOpenings template ↔ q ∈ openAfter template := fun q => by
    rw [mem_loneOpenings, mem_openAfter_iff]
  have hpairwise := pairwise_openAfter template
  cases hopened : openAfter template with
  | nil =>
    rw [List.head?_nil, List.max?_eq_none_iff, List.eq_nil_iff_forall_not_mem]
    intro q hq
    rw [hmem, hopened] at hq
    cases hq
  | cons innermost opened =>
    rw [hopened, List.pairwise_cons] at hpairwise
    rw [List.head?_cons, List.max?_eq_some_iff]
    refine ⟨(hmem _).mpr (hopened ▸ List.mem_cons_self), fun q hq => ?_⟩
    rw [hmem, hopened] at hq
    rcases List.mem_cons.mp hq with rfl | hq
    · exact Nat.le_refl _
    · exact Nat.le_of_lt (hpairwise.1 q hq)

theorem mem_loneClosings {template : Text} {p : Nat} :
    p ∈ loneClosings template ↔ LoneClosing template p := by
  rw [loneClosings, List.mem_filter, decide_eq_true_eq, List.mem_range]
  exact and_iff_right_of_imp fun h => (List.getElem?_eq_some_iff.mp h.closing_eq).1

/-! ## The brace check -/

theorem braceProblemsFrom_cons (opened : List Nat) (place : Nat) (c : Char) (rest : Text) :
    braceProblemsFrom opened place (c :: rest) =
      (if c = '}' ∧ opened = [] then [.unexpectedClosing place] else []) ++
        braceProblemsFrom (openStep opened place c) (place + 1) rest := by
  by_cases hopening : c = '{'
  · subst hopening
    rw [braceProblemsFrom_opening]
    simp [openStep]
  by_cases hclosing : c = '}'
  · subst hclosing
    cases opened <;> simp [braceProblemsFrom, openStep]
  · rw [braceProblemsFrom_other hopening hclosing]
    simp [openStep, hopening, hclosing]

/-- From any place on, the check reports the lone closing braces that are still to come. -/
theorem braceProblemsFrom_openAfter (front text : Text) :
    braceProblemsFrom (openAfter front) front.length text =
      ((List.range' front.length text.length).filter (LoneClosing (front ++ text))).map
          .unexpectedClosing ++
        ((openAfter (front ++ text)).head?.map .unclosed).toList := by
  induction text generalizing front with
  | nil => simp [braceProblemsFrom]
  | cons c rest ih =>
    -- what the check keeps is again what is open behind the part that it has passed
    have hrest := ih (front ++ [c])
    rw [openAfter_concat, List.length_append, List.length_singleton, List.append_assoc,
      List.singleton_append] at hrest
    rw [braceProblemsFrom_cons, hrest, List.length_cons, List.range'_succ, List.filter_cons]
    simp only [decide_eq_true_eq, loneClosing_append_iff]
    split <;> simp

/-- The problems with the braces of a template are its lone closing braces in order, and then the
last of its lone opening braces. -/
theorem braceProblems_eq (template : Text) :
    braceProblems template = (loneClosings template).map .unexpectedClosing ++
      ((loneOpenings template).max?.map .unclosed).toList := by
  have h := braceProblemsFrom_openAfter [] template
  rw [List.nil_append, ← max?_loneOpenings, List.length_nil, ← List.range_eq_range'] at h
  exact h

theorem braceProblems_eq_nil_iff_lone {template : Text} :
    braceProblems template = [] ↔
      (∀ place, ¬LoneClosing template place) ∧ ∀ place, ¬LoneOpening template place := by
  rw [braceProblems_eq, List.append_eq_nil_iff, List.map_eq_nil_iff, Option.toList_eq_nil_iff,
    Option.map_eq_none_iff, List.max?_eq_none_iff]
  simp only [List.eq_nil_iff_forall_not_mem, mem_loneClosings, mem_loneOpenings]

/-- For every closing brace without a partner, in the order of their places, the brace check says
that it is unexpected; then it says of the last opening brace without a partner, if there is one,
that it is not closed; and it says nothing else. So it is silent if the braces are balanced, and
only then. -/
theorem brace_reports_exact (template : Text) :
    (braceProblems template).map Problem.message =
        (loneClosings template).map (fun place =>
          "unexpected closing brace at position ".toList ++ Text.decimal place) ++
        ((loneOpenings template).max?.map fun place =>
          "unclosed placeholder starting at position ".toList ++ Text.decimal place).toList ∧
      (braceProblems template = [] ↔ Balanced template) := by
  refine ⟨?_, braceProblems_eq_nil_iff⟩
  rw [braceProblems_eq, List.map_append, List.map_map]
  cases (loneOpenings template).max? <;> rfl

example :
    let template := ['}', '{', 'a', '}', '}', '{', ' ', '{']
    loneClosings template = [0, 4] ∧ loneOpenings template = [5, 7] := by
  decide

end LinkTemplate.Template
