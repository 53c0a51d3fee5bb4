import LinkTemplate.Proofs.Expansion.Substitution
import LinkTemplate.Proofs.Template.Matching
import Mathlib.Data.List.Basic

/-!
# Expanding an expansion

Values join the characters around them, so that an expansion, read as a template, could hold
placeholders that the template does not. It holds none if no value has an opening brace : its pieces
are those of the template with the characters of each value in the place of its placeholder
(`pieces_url`). A closing brace in a value does no harm, since no brace in front of a placeholder is
still open there.

So the placeholders of the expansion are those that have no value, moved by what the values in front
of them are longer or shorter than the placeholders that they took the place of
(`spans_url`), and expanding again changes nothing (`expand_url_again`).
-/

namespace LinkTemplate

open Template

/-! ## Settled pieces -/

/-- What an expansion makes of a piece : the characters of the value if it is a placeholder that has
one, and otherwise the piece itself. -/
def Template.Piece.settled (inputs : Inputs) : Piece → List Piece
  | .char c => [.char c]
  | .placeholder content =>
    match (resolve inputs content).value? with
    | some value => value.map .char
    | none => [.placeholder content]

/-- A settled piece is written as the expansion shows it. -/
theorem flatMap_shown_settled (inputs : Inputs) (p : Piece) :
    (p.settled inputs).flatMap (Piece.fill (shown inputs)) = p.fill (shown inputs) := by
  cases p with
  | char c => rfl
  | placeholder content =>
    cases hvalue : (resolve inputs content).value? with
    | some value =>
      simp [Piece.settled, Piece.fill, shown, hvalue, List.flatMap_map]
    | none => simp [Piece.settled, Piece.fill, hvalue]

/-- The placeholders left of a piece are those that have no value. -/
theorem content?_settled (inputs : Inputs) (p : Piece) :
    (p.settled inputs).filterMap Piece.content? =
      (p.content?.filter fun content => (resolve inputs content).value?.isNone).toList := by
  cases p with
  | char c => rfl
  | placeholder content =>
    cases hvalue : (resolve inputs content).value? with
    | some value =>
      have hnone : Piece.content? ∘ Piece.char = fun _ => none := rfl
      simp [Piece.settled, Piece.content?, hvalue, List.filterMap_map, hnone, Option.filter]
    | none => simp [Piece.settled, Piece.content?, hvalue, Option.filter]

/-! ## The pieces of an expansion -/

/-- A text without opening braces is characters. -/
theorem pieces_append_of_notMem {front : Text} (h : '{' ∉ front) (back : Text) :
    pieces (front ++ back) = front.map .char ++ pieces back := by
  induction front with
  | nil => rfl
  | cons c front ih =>
    simp only [List.mem_cons, not_or] at h
    have hnot := @forall_not_leads_of_head c (front ++ back) fun hc => absurd hc.symm h.1
    rw [List.cons_append, pieces_of_not_leads hnot, ih h.2, List.map_cons, List.cons_append]

/-- A character in front of a text starts no placeholder in the expansion either. If it is an opening
brace, it is closed at once, or never and then nothing behind it has a value. -/
theorem not_leads_url {c : Char} {rest : Text}
    (h : ∀ content after, ¬Leads content after (c :: rest)) (inputs : Inputs) :
    ∀ content after, ¬Leads content after (c :: (expand rest inputs).url) := by
  refine forall_not_leads_of_head ?_
  rintro rfl
  rcases forall_not_leads_iff.mp h with hhead | hmem
  · obtain ⟨rest, rfl⟩ := List.head?_eq_some_iff.mp hhead
    have hnot := @forall_not_leads_of_head '}' rest fun hc => absurd hc (by decide)
    rw [expand_of_not_leads hnot]
    exact .inl rfl
  · have hspans : spans rest = [] := spansFrom_of_notMem hmem 0 none
    rw [url_eq_template (by simp [hspans])]
    exact .inr hmem

/-- The pieces of an expansion are the settled pieces of the template. -/
theorem pieces_url {template : Text} {inputs : Inputs}
    (h : ∀ content ∈ contents template, ∀ value ∈ (resolve inputs content).value?, '{' ∉ value) :
    pieces (expand template inputs).url = (pieces template).flatMap (Piece.settled inputs) := by
  induction template using leads_induction with
  | nil => simp [expand_nil]
  | placeholder content after text hl ih =>
    rw [contents_of_leads hl, List.forall_mem_cons] at h
    rw [expand_of_leads hl, pieces_of_leads hl, List.flatMap_cons, ← ih h.2]
    cases hvalue : (resolve inputs content).value? with
    | some value =>
      have hfront : '{' ∉ value := h.1 value hvalue
      simp [shown, Piece.settled, hvalue, pieces_append_of_notMem hfront]
    | none =>
      have hleads : Leads content (expand after inputs).url
          ('{' :: content ++ '}' :: (expand after inputs).url) :=
        ⟨hl.nonempty, hl.closing_notMem, rfl⟩
      simpa [shown, Piece.settled, hvalue] using pieces_of_leads hleads
  | char c rest hnot ih =>
    rw [contents_of_not_leads hnot] at h
    rw [expand_of_not_leads hnot, pieces_of_not_leads hnot, List.flatMap_cons, ← ih h,
      pieces_of_not_leads (not_leads_url hnot inputs)]
    rfl

/-! ## Placeholders that are left -/

/-- The spans that have no value, where they stand in the expansion. In the template the spans follow
position `cursor`, which is position `position` of the expansion. -/
def remainingFrom (inputs : Inputs) (cursor position : Nat) : List Span → List Span
  | [] => []
  | s :: ss =>
    let start := position + (s.start - cursor)
    match (resolve inputs s.content).value? with
    | some value => remainingFrom inputs s.stop (start + Text.utf8Size value) ss
    | none =>
      let stop := start + (s.stop - s.start)
      ⟨start, stop, s.content⟩ :: remainingFrom inputs s.stop stop ss

/-- The spans of a template that have no value, where they stand in its expansion. -/
def remaining (template : Text) (inputs : Inputs) : List Span :=
  remainingFrom inputs 0 0 (spans template)

theorem spansOf_map_char (position : Nat) (text : Text) (ps : List Piece) :
    spansOf position (text.map .char ++ ps) = spansOf (position + Text.utf8Size text) ps := by
  induction text generalizing position with
  | nil => rfl
  | cons c text ih =>
    rw [List.map_cons, List.cons_append, spansOf, ih, Text.utf8Size_cons, Nat.add_assoc]

/-- The pieces stand `gap` bytes behind `cursor` in the template and behind `position` in the
expansion. -/
theorem remainingFrom_spansOf (inputs : Inputs) (cursor position gap : Nat) (ps : List Piece) :
    remainingFrom inputs cursor position (spansOf (cursor + gap) ps) =
      spansOf (position + gap) (ps.flatMap (Piece.settled inputs)) := by
  induction ps generalizing cursor position gap with
  | nil => rfl
  | cons p ps ih =>
    cases p with
    | char c =>
      have := ih cursor position (gap + c.utf8Size)
      simpa [spansOf, Piece.settled, Nat.add_assoc] using this
    | placeholder content =>
      have hrest := fun stop next => ih stop next 0
      simp only [Nat.add_zero] at hrest
      cases hvalue : (resolve inputs content).value? with
      | some value =>
        simp [spansOf, remainingFrom, Piece.settled, hvalue, hrest, spansOf_map_char]
      | none =>
        have hsize : cursor + gap + Text.utf8Size content + 2 - (cursor + gap) =
            Text.utf8Size content + 2 := by
          omega
        simp [spansOf, remainingFrom, Piece.settled, hvalue, hrest, hsize, ← Nat.add_assoc]

section

variable {template : Text} {inputs : Inputs}
  (h : ∀ content ∈ contents template, ∀ value ∈ (resolve inputs content).value?, '{' ∉ value)
include h

theorem contents_url :
    contents (expand template inputs).url =
      (contents template).filter fun content => (resolve inputs content).value?.isNone := by
  rw [contents, pieces_url h, contents, List.filterMap_flatMap, List.filter_filterMap,
    filterMap_eq_flatMap]
  simp only [content?_settled]

theorem spans_url :
    spans (expand template inputs).url = remaining template inputs := by
  have := remainingFrom_spansOf inputs 0 0 0 (pieces template)
  rw [remaining, spans_eq_spansOf, spans_eq_spansOf, pieces_url h]
  exact this.symm

/-- What is collected of the placeholders without a value is collected again. -/
theorem filterMap_contents_url {α : Type} {f : Outcome → Option α}
    (hf : ∀ value, f (.resolved value) = none) :
    ((contents (expand template inputs).url).filterMap fun content => f (resolve inputs content)) =
      (contents template).filterMap fun content => f (resolve inputs content) := by
  rw [contents_url h, List.filterMap_filter]
  refine List.filterMap_congr fun content _ => ?_
  cases ho : resolve inputs content with
  | resolved value => simp [Outcome.value?, hf]
  | kept | missing | failed => simp [Outcome.value?]

theorem expand_expand_url :
    expand (expand template inputs).url inputs = expand template inputs := by
  have hurl : (pieces (expand template inputs).url).flatMap (Piece.fill (shown inputs)) =
      (pieces template).flatMap (Piece.fill (shown inputs)) := by
    rw [pieces_url h, List.flatMap_assoc]
    simp only [flatMap_shown_settled]
  rw [expand_eq (expand template inputs).url, hurl,
    filterMap_contents_url h (f := Outcome.missing?) fun _ => rfl,
    filterMap_contents_url h (f := Outcome.defect?) fun _ => rfl, ← expand_eq]

end

/-- Expanding an expansion changes nothing if no value has an opening brace, a fortiori if none has a
brace : the same inputs give the same text, names and words again, and the same success. The spans of
the expansion are those of the template that have no value, in order, each moved by what the values in
front of it are longer or shorter than the placeholders that they took the place of. -/
theorem expand_url_again {template : Text} {inputs : Inputs}
    (h : ∀ s ∈ spans template, ∀ value ∈ (resolve inputs s.content).value?, '{' ∉ value) :
    let first := expand template inputs
    let second := expand first.url inputs
    second.url = first.url ∧ second.missing = first.missing ∧ second.errors = first.errors ∧
      second.succeeded = first.succeeded ∧ spans first.url = remaining template inputs ∧
      (remaining template inputs).map (·.content) =
        ((spans template).filter fun s => (resolve inputs s.content).value?.isNone).map
          (·.content) := by
  intro first second
  have hcontents : ∀ content ∈ contents template,
      ∀ value ∈ (resolve inputs content).value?, '{' ∉ value := by
    intro content hmem
    obtain ⟨s, hs, rfl⟩ := mem_contents_iff_spans.mp hmem
    exact h s hs
  have hsecond : second = first := expand_expand_url hcontents
  have hspans : spans first.url = remaining template inputs := spans_url hcontents
  refine ⟨by rw [hsecond], by rw [hsecond], by rw [hsecond], by rw [hsecond], hspans, ?_⟩
  rw [← hspans, map_content_spans, contents_url hcontents, ← map_content_spans, List.filter_map]
  rfl

/-- Values with closing braces and without any characters, between empty, stray and nested braces, a
placeholder without a name, one of no known kind and a missing argument, in front of an opening brace
that is not closed. -/
theorem expand_url_again_braces :
    let template := 'é' :: '{' :: '}' :: '{' :: "argument name=\"q\"".toList ++ '}' :: '}' :: '{' ::
      "clipboard".toList ++ '}' :: '{' :: "argument".toList ++ '}' :: '{' :: 'x' :: '{' ::
      "date".toList ++ '}' :: '{' :: "argument name=\"r\"".toList ++ ['}', '{']
    let inputs : Inputs :=
      { arguments := [("q".toList, ['ü', '}'])], clipboard := some [], reference := default }
    (∀ s ∈ spans template, ∀ value ∈ (resolve inputs s.content).value?, '{' ∉ value) ∧
      (expand (expand template inputs).url inputs).missing = ["r".toList] ∧
      (expand (expand template inputs).url inputs).succeeded = false ∧
      (spans (expand template inputs).url).map (fun s => (s.start, s.stop)) =
        [(8, 18), (18, 26), (26, 45)] := by
  intro template inputs
  have h : ∀ s ∈ spans template, ∀ value ∈ (resolve inputs s.content).value?, '{' ∉ value := by
    decide +kernel
  obtain ⟨-, hmissing, -, hsucceeded, hspans, -⟩ := expand_url_again h
  refine ⟨h, ?_, ?_, ?_⟩
  · rw [hmissing]
    decide +kernel
  · rw [hsucceeded]
    decide +kernel
  · rw [hspans]
    decide +kernel

end LinkTemplate
