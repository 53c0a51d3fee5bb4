import LinkTemplate.Template.Span

/-!
# The pieces of a template

`pieces` reads a template once, character by character and without positions : a placeholder
where one starts (`Leads`), a single character otherwise. The spans are the placeholders among
the pieces, each at the number of bytes of the pieces in front of it (`spans_eq_spansOf`), and
filling the spans writes the pieces one after the other (`fill_spans`). Whatever is said of a
template, its spans and its gaps can then be said of a list of pieces.
-/

namespace LinkTemplate

namespace Template

/-! ## Placeholders at the start of a text -/

/-- The text starts with a placeholder : an opening brace, characters other than a closing
brace, at least one of them, and the closing brace. -/
structure Leads (content after text : Text) : Prop where
  nonempty : content ≠ []
  closing_notMem : '}' ∉ content
  eq_append : text = '{' :: content ++ '}' :: after

/-- The content of the placeholder that a text starts with, and the text behind it. -/
def leading? : Text → Option (Text × Text)
  | '{' :: rest => (Text.cut? '}' rest).filter fun p => p.1 ≠ []
  | _ => none

theorem leading?_eq_some_iff {content after text : Text} :
    leading? text = some (content, after) ↔ Leads content after text := by
  constructor
  · intro h
    unfold leading? at h
    split at h
    · obtain ⟨hcut, hne⟩ := Option.filter_eq_some_iff.mp h
      obtain ⟨rfl, hmem⟩ := Text.eq_of_cut? hcut
      exact ⟨by simpa using hne, hmem, rfl⟩
    · simp at h
  · rintro ⟨hne, hmem, rfl⟩
    simp [leading?, Text.cut?_append hmem, Option.filter, hne]

theorem leading?_eq_none_iff {text : Text} :
    leading? text = none ↔ ∀ content after, ¬Leads content after text := by
  rw [Option.eq_none_iff_forall_ne_some]
  constructor
  · intro h content after hl
    exact h (content, after) (leading?_eq_some_iff.mpr hl)
  · rintro h ⟨content, after⟩ hl
    exact h content after (leading?_eq_some_iff.mp hl)

theorem Leads.length_lt {content after text : Text} (h : Leads content after text) :
    after.length < text.length := by
  rw [h.eq_append]
  simp
  omega

/-! ## Pieces -/

/-- What a template is made of. -/
inductive Piece where
  /-- A character that stands for itself. -/
  | char (c : Char)
  | placeholder (content : Text)
deriving DecidableEq, Repr

namespace Piece

/-- A piece with a text in the place of a placeholder. -/
def fill (text : Text → Text) : Piece → Text
  | .char c => [c]
  | .placeholder content => text content

/-- A piece as it is written. -/
def source : Piece → Text :=
  fill fun content => '{' :: content ++ ['}']

/-- The content of a placeholder. -/
def content? : Piece → Option Text
  | .char _ => none
  | .placeholder content => some content

end Piece

/-- The pieces of a template, from left to right. -/
def pieces : Text → List Piece
  | [] => []
  | c :: rest =>
    match h : leading? (c :: rest) with
    | some (content, after) =>
      have : after.length < (c :: rest).length := (leading?_eq_some_iff.mp h).length_lt
      .placeholder content :: pieces after
    | none => .char c :: pieces rest
termination_by text => text.length
decreasing_by
  · exact this
  · exact Nat.lt_succ_self rest.length

@[simp] theorem pieces_nil : pieces [] = [] := by
  rw [pieces]

theorem pieces_of_leads {content after text : Text} (h : Leads content after text) :
    pieces text = .placeholder content :: pieces after := by
  have hl := leading?_eq_some_iff.mpr h
  cases text with
  | nil => simp [leading?] at hl
  | cons c rest =>
    rw [pieces]
    split
    · next hl' =>
      rw [hl] at hl'
      simp only [Option.some.injEq, Prod.mk.injEq] at hl'
      rw [hl'.1, hl'.2]
    · next hl' => simp [hl] at hl'

theorem pieces_of_not_leads {c : Char} {rest : Text}
    (h : ∀ content after, ¬Leads content after (c :: rest)) :
    pieces (c :: rest) = .char c :: pieces rest := by
  have hl := leading?_eq_none_iff.mpr h
  rw [pieces]
  split
  · next hl' => simp [hl] at hl'
  · rfl

theorem filterMap_eq_flatMap {α β : Type} (f : α → Option β) (l : List α) :
    l.filterMap f = l.flatMap fun a => (f a).toList := by
  induction l with
  | nil => rfl
  | cons a l ih => cases h : f a <;> simp [h, ih]

/-- The contents of the placeholders of a template, in order. -/
def contents (template : Text) : List Text :=
  (pieces template).filterMap Piece.content?

@[simp] theorem contents_nil : contents [] = [] := by
  simp [contents]

theorem contents_of_leads {content after text : Text} (h : Leads content after text) :
    contents text = content :: contents after := by
  rw [contents, pieces_of_leads h]
  exact List.filterMap_cons_some rfl

theorem contents_of_not_leads {c : Char} {rest : Text}
    (h : ∀ content after, ¬Leads content after (c :: rest)) :
    contents (c :: rest) = contents rest := by
  rw [contents, pieces_of_not_leads h]
  exact List.filterMap_cons_none rfl

theorem mem_contents {content template : Text} :
    content ∈ contents template ↔ .placeholder content ∈ pieces template := by
  rw [contents, List.mem_filterMap]
  constructor
  · rintro ⟨_ | c, hp, h⟩
    · simp [Piece.content?] at h
    · simp only [Piece.content?, Option.some.injEq] at h
      exact h ▸ hp
  · intro hp
    exact ⟨_, hp, rfl⟩

/-- A property of texts holds if it passes from the text behind a leading placeholder to the
whole text, and from the rest of a text that starts with none. -/
theorem leads_induction {motive : Text → Prop} (nil : motive [])
    (placeholder : ∀ content after text, Leads content after text → motive after → motive text)
    (char : ∀ c rest, (∀ content after, ¬Leads content after (c :: rest)) → motive rest →
      motive (c :: rest)) : ∀ text, motive text
  | [] => nil
  | c :: rest =>
    match h : leading? (c :: rest) with
    | some (content, after) =>
      placeholder content after _ (leading?_eq_some_iff.mp h)
        (leads_induction nil placeholder char after)
    | none => char c rest (leading?_eq_none_iff.mp h) (leads_induction nil placeholder char rest)
termination_by text => text.length
decreasing_by
  · exact (leading?_eq_some_iff.mp h).length_lt
  · exact Nat.lt_succ_self rest.length

/-- The pieces as they are written make up the template. -/
theorem flatMap_source_pieces (template : Text) :
    (pieces template).flatMap Piece.source = template := by
  induction template using leads_induction with
  | nil => simp
  | placeholder content after text hl ih =>
    rw [pieces_of_leads hl, List.flatMap_cons, ih, hl.eq_append]
    simp [Piece.source, Piece.fill]
  | char c rest hnot ih =>
    rw [pieces_of_not_leads hnot, List.flatMap_cons, ih]
    rfl

/-! ## Spans -/

/-- The placeholders among pieces that stand at a position of a template. -/
def spansOf (position : Nat) : List Piece → List Span
  | [] => []
  | .char c :: rest => spansOf (position + c.utf8Size) rest
  | .placeholder content :: rest =>
    let stop := position + Text.utf8Size content + 2
    ⟨position, stop, content⟩ :: spansOf stop rest

/-- The characters up to the closing brace are added to the content of an open brace. -/
theorem spansFrom_opened (position start : Nat) (content : Text) {front : Text}
    (h : '}' ∉ front) (back : Text) :
    spansFrom position (some (start, content)) (front ++ '}' :: back) =
      let next := position + Text.utf8Size front + 1
      if content ++ front = [] then spansFrom next none back
      else ⟨start, next, content ++ front⟩ :: spansFrom next none back := by
  induction front generalizing position content with
  | nil => simp [spansFrom, show '}'.utf8Size = 1 from rfl]
  | cons c front ih =>
    simp only [List.mem_cons, not_or] at h
    have hnext : position + c.utf8Size + Text.utf8Size front + 1 =
        position + Text.utf8Size (c :: front) + 1 := by
      rw [Text.utf8Size_cons]
      omega
    rw [List.cons_append, spansFrom, if_neg (Ne.symm h.1), ih _ _ h.2, hnext]
    simp

/-- Without a closing brace there is no placeholder. -/
theorem spansFrom_of_notMem {text : Text} (h : '}' ∉ text) (position : Nat)
    (opened? : Option (Nat × Text)) : spansFrom position opened? text = [] := by
  induction text generalizing position opened? with
  | nil => rfl
  | cons c rest ih =>
    simp only [List.mem_cons, not_or] at h
    cases opened? with
    | none => exact ih h.2 _ _
    | some p => rw [spansFrom, if_neg (Ne.symm h.1), ih h.2]

/-- A character that starts no placeholder adds no span. -/
theorem spansFrom_of_not_leads {c : Char} {rest : Text}
    (h : ∀ content after, ¬Leads content after (c :: rest)) (position : Nat) :
    spansFrom position none (c :: rest) = spansFrom (position + c.utf8Size) none rest := by
  rw [spansFrom]
  by_cases hc : c = '{'
  · subst hc
    rw [if_pos rfl]
    cases hcut : Text.cut? '}' rest with
    | none =>
      have hmem := Text.cut?_eq_none_iff.mp hcut
      rw [spansFrom_of_notMem hmem, spansFrom_of_notMem hmem]
    | some p =>
      obtain ⟨content, after⟩ := p
      obtain ⟨rfl, hmem⟩ := Text.eq_of_cut? hcut
      obtain rfl : content = [] :=
        Decidable.byContradiction fun hne => h content after ⟨hne, hmem, rfl⟩
      simp [spansFrom, show '}'.utf8Size = 1 from rfl]
  · rw [if_neg hc]

/-- Outside a placeholder the spans of a text are those of its pieces. -/
theorem spansFrom_none (position : Nat) (text : Text) :
    spansFrom position none text = spansOf position (pieces text) := by
  induction text using leads_induction generalizing position with
  | nil => simp [spansFrom, spansOf]
  | placeholder content after text hl ih =>
    have hstop : position + '{'.utf8Size + Text.utf8Size content + 1 =
        position + Text.utf8Size content + 2 := by
      rw [show '{'.utf8Size = 1 from rfl]
      omega
    rw [pieces_of_leads hl, spansOf, ← ih, hl.eq_append, List.cons_append, spansFrom, if_pos rfl,
      spansFrom_opened _ _ _ hl.closing_notMem, hstop]
    simp [hl.nonempty]
  | char c rest hnot ih =>
    rw [spansFrom_of_not_leads hnot, pieces_of_not_leads hnot, spansOf, ih]

/-- The spans of a template are the placeholders among its pieces. -/
theorem spans_eq_spansOf (template : Text) : spans template = spansOf 0 (pieces template) :=
  spansFrom_none 0 template

@[simp] theorem map_content_spansOf (position : Nat) (ps : List Piece) :
    (spansOf position ps).map Span.content = ps.filterMap Piece.content? := by
  induction ps generalizing position with
  | nil => rfl
  | cons p ps ih => cases p <;> simp [spansOf, Piece.content?, ih, List.filterMap_cons]

theorem map_content_spans (template : Text) :
    (spans template).map Span.content = contents template := by
  rw [spans_eq_spansOf, map_content_spansOf, contents]

theorem mem_contents_iff_spans {content template : Text} :
    content ∈ contents template ↔ ∃ s ∈ spans template, s.content = content := by
  rw [← map_content_spans, List.mem_map]

theorem exists_append_of_mem_spansOf {s : Span} {ps : List Piece} {position : Nat}
    (h : s ∈ spansOf position ps) :
    ∃ front back, ps = front ++ .placeholder s.content :: back ∧
      s.start = position + Text.utf8Size (front.flatMap Piece.source) ∧
      s.stop = s.start + Text.utf8Size s.source := by
  induction ps generalizing position with
  | nil => simp [spansOf] at h
  | cons p ps ih =>
    cases p with
    | char c =>
      obtain ⟨front, back, rfl, hstart, hstop⟩ := ih h
      refine ⟨.char c :: front, back, rfl, ?_, hstop⟩
      rw [hstart]
      simp [Piece.source, Piece.fill, Nat.add_assoc]
    | placeholder content =>
      have hsize : Text.utf8Size ('{' :: content ++ ['}']) = Text.utf8Size content + 2 := by
        simp [show '{'.utf8Size = 1 from rfl, show '}'.utf8Size = 1 from rfl]
        omega
      rcases List.mem_cons.mp h with rfl | h
      · refine ⟨[], ps, rfl, rfl, ?_⟩
        rw [Span.source, hsize, Nat.add_assoc]
      · obtain ⟨front, back, rfl, hstart, hstop⟩ := ih h
        refine ⟨.placeholder content :: front, back, rfl, ?_, hstop⟩
        rw [hstart, List.flatMap_cons, Text.utf8Size_append, Piece.source, Piece.fill, hsize]
        omega

/-- A span stands where it says : its source is in the template, behind `start` bytes. -/
theorem exists_append_of_mem_spans {s : Span} {template : Text} (h : s ∈ spans template) :
    ∃ front back, template = front ++ (s.source ++ back) ∧ s.start = Text.utf8Size front ∧
      s.stop = s.start + Text.utf8Size s.source := by
  rw [spans_eq_spansOf] at h
  obtain ⟨front, back, hps, hstart, hstop⟩ := exists_append_of_mem_spansOf h
  refine ⟨front.flatMap Piece.source, back.flatMap Piece.source, ?_, by simpa using hstart, hstop⟩
  rw [← flatMap_source_pieces template, hps, List.flatMap_append, List.flatMap_cons]
  rfl

theorem slice_span {s : Span} {template : Text} (h : s ∈ spans template) :
    Text.slice s.start s.stop template = s.source := by
  obtain ⟨front, back, rfl, hstart, hstop⟩ := exists_append_of_mem_spans h
  rw [hstop, hstart, Text.slice_append]

/-! ## Filling -/

/-- Filling from the end of `front` on, when `gap` has been passed since. -/
theorem fillFrom_spansOf (text : Text → Text) (front gap : Text) (ps : List Piece) :
    fillFrom (front ++ (gap ++ ps.flatMap Piece.source)) (Text.utf8Size front)
        ((spansOf (Text.utf8Size front + Text.utf8Size gap) ps).map fun s => (s, text s.content)) =
      gap ++ ps.flatMap (Piece.fill text) := by
  induction ps generalizing front gap with
  | nil => simp [spansOf, fillFrom, Text.dropBytes_utf8Size_append]
  | cons p ps ih =>
    cases p with
    | char c =>
      have := ih front (gap ++ [c])
      simpa [spansOf, Piece.source, Piece.fill, Nat.add_assoc] using this
    | placeholder content =>
      have hstop : Text.utf8Size front + Text.utf8Size gap + Text.utf8Size content + 2 =
          Text.utf8Size (front ++ gap ++ '{' :: content ++ ['}']) := by
        simp [show '{'.utf8Size = 1 from rfl, show '}'.utf8Size = 1 from rfl]
        omega
      have := ih (front ++ gap ++ '{' :: content ++ ['}']) []
      simp only [spansOf, List.map_cons, fillFrom, Text.slice_append, hstop]
      simpa [Piece.source, Piece.fill] using this

/-- A template with its spans filled is the concatenation of its pieces, each filled by itself. -/
theorem fill_spans (text : Text → Text) (template : Text) :
    fill template ((spans template).map fun s => (s, text s.content)) =
      (pieces template).flatMap (Piece.fill text) := by
  have := fillFrom_spansOf text [] [] (pieces template)
  simpa [fill, spans_eq_spansOf, flatMap_source_pieces] using this

end Template

end LinkTemplate
