import LinkTemplate.Diagnosis
import LinkTemplate.Expansion
import LinkTemplate.Proofs.Placeholder.QuotedSearch
import LinkTemplate.Proofs.Slices.Checked
import LinkTemplate.Proofs.Text.Percent

/-!
# Slices of templates

The search for placeholders looks at one byte after the other, and slices behind a byte that is the
code of an opening brace. No byte of another character is that (`opening_notMem_utf8EncodeChar`),
so it comes from a character to the next one before it slices, and it slices at the two ends of a
content, where there are braces (`spansFrom_append`).

What goes through the spans of a template slices at their ends. The expansion also slices from
where the last span ended, so it needs that the spans are in order : `Template.MatchesFrom` passes
this on from one span to the next (`expandFrom_eq`).
-/

namespace LinkTemplate

@[simp] theorem Text.utf8Size_opening : '{'.utf8Size = 1 := rfl

@[simp] theorem Text.utf8Size_closing : '}'.utf8Size = 1 := rfl

/-! ## Bytes -/

namespace Text.Percent

theorem utf8_append (s t : Text) : utf8 (s ++ t) = utf8 s ++ utf8 t :=
  List.flatMap_append

theorem length_utf8 (t : Text) : (utf8 t).length = utf8Size t := by
  induction t with
  | nil => rfl
  | cons c t ih =>
    rw [utf8, List.flatMap_cons, ← utf8, List.length_append, ih, String.length_utf8EncodeChar,
      utf8Size_cons]

/-- The bytes behind a part of a text are those of the rest. -/
theorem getElem?_utf8_append (front rest : Text) (n : Nat) :
    (utf8 (front ++ rest))[utf8Size front + n]? = (utf8 rest)[n]? := by
  rw [utf8_append, ← length_utf8, List.getElem?_append_right (Nat.le_add_right _ _),
    Nat.add_sub_cancel_left]

theorem opening_notMem_utf8EncodeChar {c : Char} (h : c ≠ '{') :
    '{'.toUInt8 ∉ String.utf8EncodeChar c := by
  intro hmem
  by_cases hlt : c.toNat < 0x80
  · rw [utf8EncodeChar_of_lt hlt, List.mem_singleton] at hmem
    have hc := ofUInt8_ofNat hlt
    rw [← hmem] at hc
    exact h hc.symm
  · have hbeyond := le_toNat_of_mem_utf8EncodeChar (Nat.le_of_not_lt hlt) hmem
    exact absurd hbeyond (by decide)

end Text.Percent

namespace Checked

open Text.Percent (utf8)
open Template (MatchesFrom spansOf pieces)

/-! ## Searching for placeholders -/

/-- The spans of a template from its byte `i` on. -/
def spansFrom (template : Text) (i : Nat) : Checked (List Span) :=
  if h : i < (utf8 template).length then
    if (utf8 template)[i] ≠ '{'.toUInt8 then spansFrom template (i + 1)
    else do
      let behind ← sliceFrom (i + 1) template
      match Text.find? ['}'] behind with
      | none => return []
      | some length =>
        if length = 0 then spansFrom template (i + 1)
        else
          let closing := i + 1 + length
          let content ← slice (i + 1) closing template
          let later ← spansFrom template (closing + 1)
          return ⟨i, closing + 1, content⟩ :: later
  else return []
termination_by (utf8 template).length - i

/-- The placeholders of a template, from left to right. -/
def spans (template : Text) : Checked (List Span) :=
  spansFrom template 0

theorem spansFrom_end (template : Text) :
    spansFrom template (Text.utf8Size template) = pure [] := by
  rw [spansFrom, dif_neg (by rw [Text.Percent.length_utf8]; exact Nat.lt_irrefl _)]

theorem spansFrom_skip {template : Text} {i n : Nat}
    (h : ∀ k < n, ∃ b, (utf8 template)[i + k]? = some b ∧ b ≠ '{'.toUInt8) :
    spansFrom template i = spansFrom template (i + n) := by
  induction n with
  | zero => rfl
  | succ n ih =>
    obtain ⟨b, hbyte, hb⟩ := h n (Nat.lt_succ_self n)
    obtain ⟨hlt, rfl⟩ := List.getElem?_eq_some_iff.mp hbyte
    have hnext : spansFrom template (i + n) = spansFrom template (i + n + 1) := by
      rw [spansFrom, dif_pos hlt, if_pos hb]
    rw [ih fun k hk => h k (Nat.lt_succ_of_lt hk), hnext, Nat.add_assoc]

/-- The search passes over the bytes of a character that is no opening brace. -/
theorem spansFrom_of_ne (front : Text) {c : Char} (h : c ≠ '{') (rest : Text) :
    spansFrom (front ++ c :: rest) (Text.utf8Size front) =
      spansFrom (front ++ c :: rest) (Text.utf8Size (front ++ [c])) := by
  rw [Text.utf8Size_append, Text.utf8Size_cons, Text.utf8Size_nil, Nat.add_zero]
  refine spansFrom_skip fun k hk => ?_
  rw [← String.length_utf8EncodeChar] at hk
  have hbyte : (utf8 (front ++ c :: rest))[Text.utf8Size front + k]? =
      some (String.utf8EncodeChar c)[k] := by
    rw [Text.Percent.getElem?_utf8_append, utf8, List.flatMap_cons, List.getElem?_append_left hk,
      List.getElem?_eq_getElem]
  refine ⟨_, hbyte, fun heq => ?_⟩
  exact Text.Percent.opening_notMem_utf8EncodeChar h (heq ▸ List.getElem_mem _)

section Opening

variable (front : Text)

/-- At an opening brace the search slices behind the brace. -/
theorem spansFrom_opening (rest : Text) :
    spansFrom (front ++ '{' :: rest) (Text.utf8Size front) =
      match (Text.cut? '}' rest).map fun p => Text.utf8Size p.1 with
      | none => pure []
      | some length =>
        if length = 0 then
          spansFrom (front ++ '{' :: rest) (Text.utf8Size front + 1)
        else do
          let closing := Text.utf8Size front + 1 + length
          let content ← slice (Text.utf8Size front + 1) closing (front ++ '{' :: rest)
          let later ← spansFrom (front ++ '{' :: rest) (closing + 1)
          return ⟨Text.utf8Size front, closing + 1, content⟩ :: later := by
  have hbyte : (utf8 (front ++ '{' :: rest))[Text.utf8Size front]? = some '{'.toUInt8 :=
    Text.Percent.getElem?_utf8_append front ('{' :: rest) 0
  obtain ⟨hlt, hbyte⟩ := List.getElem?_eq_some_iff.mp hbyte
  have hbehind : sliceFrom (Text.utf8Size front + 1) (front ++ '{' :: rest) = pure rest := by
    have hslice := sliceFrom_append (front ++ ['{']) rest
    simpa using hslice
  rw [spansFrom, dif_pos hlt, if_neg (not_not_intro hbyte), hbehind, pure_bind,
    Text.find?_singleton]

theorem spansFrom_of_notMem {rest : Text} (h : '}' ∉ rest) :
    spansFrom (front ++ '{' :: rest) (Text.utf8Size front) = pure [] := by
  rw [spansFrom_opening, Text.cut?_eq_none_iff.mpr h, Option.map_none]

theorem spansFrom_closed (rest : Text) :
    spansFrom (front ++ '{' :: '}' :: rest) (Text.utf8Size front) =
      spansFrom (front ++ '{' :: '}' :: rest) (Text.utf8Size (front ++ ['{'])) := by
  rw [spansFrom_opening]
  simp [Text.cut?]

theorem spansFrom_of_leads {content after text : Text} (h : Template.Leads content after text) :
    spansFrom (front ++ text) (Text.utf8Size front) = do
      let later ← spansFrom (front ++ text) (Text.utf8Size (front ++ '{' :: content ++ ['}']))
      return ⟨Text.utf8Size front, Text.utf8Size (front ++ '{' :: content ++ ['}']), content⟩ ::
        later := by
  obtain ⟨hne, hmem, rfl⟩ := h
  have hsize : Text.utf8Size content ≠ 0 := by
    have := Text.length_le_utf8Size content
    have := List.length_pos_iff.mpr hne
    omega
  have hstop : Text.utf8Size front + 1 + Text.utf8Size content + 1 =
      Text.utf8Size (front ++ '{' :: content ++ ['}']) := by
    simp [Nat.add_assoc]
  have hcontent : slice (Text.utf8Size front + 1) (Text.utf8Size front + 1 + Text.utf8Size content)
      (front ++ ('{' :: content ++ '}' :: after)) = pure content := by
    have hslice := slice_append (front ++ ['{']) content ('}' :: after)
    simpa using hslice
  rw [List.cons_append] at hcontent ⊢
  rw [spansFrom_opening, Text.cut?_append hmem, Option.map_some]
  simp only [if_neg hsize, hcontent, pure_bind, hstop]

end Opening

/-- The search from the end of a part of a template on finds the placeholders of the rest. -/
theorem spansFrom_append (front text : Text) :
    spansFrom (front ++ text) (Text.utf8Size front) =
      pure (spansOf (Text.utf8Size front) (pieces text)) := by
  induction text using Template.leads_induction generalizing front with
  | nil =>
    rw [List.append_nil, spansFrom_end, Template.pieces_nil]
    rfl
  | placeholder content after text hl ih =>
    have hrest := ih (front ++ '{' :: content ++ ['}'])
    have happend : front ++ '{' :: content ++ ['}'] ++ after = front ++ text := by
      rw [hl.eq_append]
      simp
    rw [happend] at hrest
    have hstop : Text.utf8Size (front ++ '{' :: content ++ ['}']) =
        Text.utf8Size front + Text.utf8Size content + 2 := by
      simpa using Template.utf8Size_append_placeholder front [] content
    rw [spansFrom_of_leads front hl, hrest, pure_bind, Template.pieces_of_leads hl, spansOf, hstop]
  | char c rest hnot ih =>
    have hrest := ih (front ++ [c])
    rw [Template.pieces_of_not_leads hnot, spansOf]
    by_cases hc : c = '{'
    · subst hc
      rcases Template.forall_not_leads_iff.mp hnot with hhead | hnone
      · obtain ⟨rest, rfl⟩ := List.head?_eq_some_iff.mp hhead
        rw [spansFrom_closed]
        simpa using hrest
      · rw [spansFrom_of_notMem front hnone, ← Template.spansFrom_none,
          Template.spansFrom_of_notMem hnone]
    · rw [spansFrom_of_ne front hc]
      simpa using hrest

theorem spans_eq (template : Text) : spans template = pure (Template.spans template) := by
  rw [Template.spans_eq_spansOf]
  exact spansFrom_append [] template

/-! ## Expanding -/

/-- An expansion behind one more placeholder, with the text in front of it and its source. -/
def addOutcome (e : Expansion) (gap source : Text) : Outcome → Expansion
  | .resolved value => { e with url := e.url ++ gap ++ value }
  | .kept => { e with url := e.url ++ gap ++ source }
  | .missing name => { e with url := e.url ++ gap ++ source, missing := e.missing ++ [name] }
  | .failed defect => { e with url := e.url ++ gap ++ source, defects := e.defects ++ [defect] }

/-- The expansion of a template that is `e` up to position `cursor` and has these spans behind. -/
def expandFrom (template : Text) (inputs : Inputs) (cursor : Nat) (e : Expansion) :
    List Span → Checked Expansion
  | [] => do
    let behind ← sliceFrom cursor template
    return { e with url := e.url ++ behind }
  | s :: later => do
    let gap ← slice cursor s.start template
    let source ← slice s.start s.stop template
    expandFrom template inputs s.stop (addOutcome e gap source (resolve inputs s.content)) later

/-- The template with the value of each placeholder in its place. -/
def expand (template : Text) (inputs : Inputs) : Checked Expansion := do
  expandFrom template inputs 0 ⟨[], [], []⟩ (← spans template)

theorem addOutcome_eq (e : Expansion) (gap source : Text) (outcome : Outcome) :
    addOutcome e gap source outcome =
      ⟨e.url ++ gap ++ outcome.value?.getD source, e.missing ++ outcome.missing?.toList,
        e.defects ++ outcome.defect?.toList⟩ := by
  cases outcome <;> simp [addOutcome, Outcome.value?, Outcome.missing?, Outcome.defect?]

/-- The spans of a template match it. -/
theorem matchesFrom_spans (template : Text) : MatchesFrom 0 template (Template.spans template) := by
  have hiff := @Template.matchesFrom_iff_interleaves [] template (Template.spans template)
  refine hiff.mpr ?_
  rw [Template.spans_eq_spansOf]
  exact Template.interleaves_spansOf 0 template

/-- From a cursor that does not lie inside a character, every gap and every source is a slice. -/
theorem expandFrom_eq (template : Text) (inputs : Inputs) {cursor : Nat} {ss : List Span}
    (h : MatchesFrom cursor template ss) (hcursor : Text.IsBoundary cursor template)
    (e : Expansion) :
    expandFrom template inputs cursor e ss = pure
      ⟨e.url ++ Template.fillFrom template cursor (ss.map fun s =>
          (s, (resolve inputs s.content).value?.getD (Text.slice s.start s.stop template))),
        e.missing ++ ss.filterMap fun s => (resolve inputs s.content).missing?,
        e.defects ++ ss.filterMap fun s => (resolve inputs s.content).defect?⟩ := by
  induction ss generalizing cursor e with
  | nil =>
    rw [expandFrom, sliceFrom_of_isBoundary hcursor, pure_bind]
    simp [Template.fillFrom]
  | cons s ss ih =>
    obtain ⟨⟨hle, hs, -⟩, hss⟩ := Template.matchesFrom_cons.mp h
    have hgap := slice_of_hasSlice ⟨hle, hcursor, hs.start_isBoundary⟩
    have hsource := slice_of_hasSlice
      ⟨Nat.le_of_lt hs.start_lt_stop, hs.start_isBoundary, hs.stop_isBoundary⟩
    rw [expandFrom, hgap, pure_bind, hsource, pure_bind, ih hss hs.stop_isBoundary, addOutcome_eq]
    simp [Template.fillFrom, Template.filterMap_eq_flatMap]

theorem expand_eq (template : Text) (inputs : Inputs) :
    expand template inputs = pure (LinkTemplate.expand template inputs) := by
  have hexpand := expandFrom_eq template inputs (matchesFrom_spans template)
    (Text.isBoundary_zero template)
  rw [expand, spans_eq, pure_bind, hexpand]
  simp [LinkTemplate.expand, outcomes, Template.fill, Function.comp_def, List.filterMap_map]

/-! ## Diagnosing -/

/-- The problems of the placeholder at a span, whose place is counted in front of it. -/
def spanProblems (template : Text) (s : Span) : Checked (List Problem) := do
  let front ← sliceTo s.start template
  return (Template.defects s.content).map (.defect front.length)

/-- The problems of a template. -/
def problems (template : Text) : Checked (List Problem) := do
  let reports ← (← spans template).mapM (spanProblems template)
  return Template.braceProblems template ++ reports.flatten

theorem problems_eq (template : Text) :
    problems template = pure (Template.problems template) := by
  have hspan : ∀ s ∈ Template.spans template,
      spanProblems template s = pure (Template.spanProblems template s) := by
    intro s hs
    have hstart := ((matchesFrom_spans template).standsIn s hs).start_isBoundary
    rw [spanProblems, sliceTo_of_isBoundary hstart, pure_bind, Template.spanProblems]
  rw [problems, spans_eq, pure_bind, mapM_eq_pure_map hspan, pure_bind, Template.problems,
    List.flatMap_def]

end Checked

end LinkTemplate
