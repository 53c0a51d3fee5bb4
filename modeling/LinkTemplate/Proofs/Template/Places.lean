import LinkTemplate.Proofs.Template.Append
import LinkTemplate.Proofs.Template.Matching

/-!
# Places of a template

A place is the number of characters in front of a character, as a position is the number of bytes.
Every character of a template stands in a gap, where it starts no placeholder, or in the source of
a span (`place_cases`), as one of its two braces or in its content (`source_cases`).
-/

namespace LinkTemplate

/-! ## Characters at a place -/

namespace Text

theorem exists_append_of_getElem? {t : Text} {n : Nat} {c : Char} (h : t[n]? = some c) :
    ∃ front back, t = front ++ c :: back ∧ front.length = n := by
  obtain ⟨hn, rfl⟩ := List.getElem?_eq_some_iff.mp h
  refine ⟨t.take n, t.drop (n + 1), ?_, List.length_take_of_le (Nat.le_of_lt hn)⟩
  rw [← List.drop_eq_getElem_cons hn, List.take_append_drop]

theorem getElem?_length_append (front : Text) (c : Char) (back : Text) :
    (front ++ c :: back)[front.length]? = some c := by
  rw [List.getElem?_append_right (Nat.le_refl _), Nat.sub_self, List.getElem?_cons_zero]

theorem drop_length_append (front : Text) (c : Char) (back : Text) :
    (front ++ c :: back).drop (front.length + 1) = back := by
  rw [← List.drop_drop, List.drop_left, List.drop_succ_cons, List.drop_zero]

end Text

/-! ## Spans at a place -/

/-- The character at a place of a template belongs to the span. -/
def Span.Covers (s : Span) (template : Text) (place : Nat) : Prop :=
  s.start ≤ Text.utf8Size (template.take place) ∧ Text.utf8Size (template.take place) < s.stop

/-- The character at a place of a template is the first or the last one of the span. -/
def Span.Delimits (s : Span) (template : Text) (place : Nat) : Prop :=
  Text.utf8Size (template.take place) = s.start ∨ Text.utf8Size (template.take place) + 1 = s.stop

instance (s : Span) (template : Text) (place : Nat) : Decidable (s.Covers template place) :=
  inferInstanceAs (Decidable (_ ∧ _))

namespace Template

/-- The character at a place belongs to a placeholder. -/
def Covered (template : Text) (place : Nat) : Prop :=
  ∃ s ∈ spans template, s.Covers template place

/-- The character at a place is a brace around a placeholder. -/
def Delimiter (template : Text) (place : Nat) : Prop :=
  ∃ s ∈ spans template, s.Delimits template place

instance (template : Text) (place : Nat) : Decidable (Covered template place) :=
  inferInstanceAs (Decidable (∃ s ∈ spans template, s.Covers template place))

/-! ## Gaps and placeholders -/

theorem pieces_of_append {template : Text} {ps qs : List Piece}
    (h : pieces template = ps ++ qs) : pieces (qs.flatMap Piece.source) = qs := by
  induction template using leads_induction generalizing ps with
  | nil =>
    obtain ⟨rfl, rfl⟩ := List.append_eq_nil_iff.mp (h.symm.trans pieces_nil)
    exact pieces_nil
  | placeholder content after text hl ih =>
    cases ps with
    | nil => rw [← List.nil_append qs, ← h, flatMap_source_pieces]
    | cons p ps =>
      rw [pieces_of_leads hl, List.cons_append] at h
      exact ih (List.cons.inj h).2
  | char c rest hnot ih =>
    cases ps with
    | nil => rw [← List.nil_append qs, ← h, flatMap_source_pieces]
    | cons p ps =>
      rw [pieces_of_not_leads hnot, List.cons_append] at h
      exact ih (List.cons.inj h).2

/-- A character of a text of pieces belongs to one of them. -/
theorem exists_append_of_flatMap_source {ps : List Piece} {front back : Text} {c : Char}
    (h : ps.flatMap Piece.source = front ++ c :: back) :
    ∃ before p behind x y, ps = before ++ p :: behind ∧ p.source = x ++ c :: y ∧
      front = before.flatMap Piece.source ++ x ∧ back = y ++ behind.flatMap Piece.source := by
  induction ps generalizing front with
  | nil => simp at h
  | cons p ps ih =>
    rw [List.flatMap_cons] at h
    have hlater : ∀ {m}, front = p.source ++ m → ps.flatMap Piece.source = m ++ c :: back →
        ∃ before q behind x y, p :: ps = before ++ q :: behind ∧ q.source = x ++ c :: y ∧
          front = before.flatMap Piece.source ++ x ∧ back = y ++ behind.flatMap Piece.source := by
      intro m hfront hps
      obtain ⟨before, q, behind, x, y, rfl, hq, rfl, hback⟩ := ih hps
      exact ⟨p :: before, q, behind, x, y, rfl, hq, by simp [hfront], hback⟩
    rcases List.append_eq_append_iff.mp h with ⟨m, hfront, hps⟩ | ⟨m, hp, hback⟩
    · exact hlater hfront hps
    · cases m with
      | nil => exact @hlater [] (by simpa using hp.symm) (by simpa using hback.symm)
      | cons d m =>
        obtain ⟨rfl, rfl⟩ := List.cons.inj hback
        exact ⟨[], p, ps, front, m, rfl, hp, rfl, rfl⟩

theorem bounds_of_mem_spansOf {s : Span} {ps : List Piece} {position : Nat}
    (h : s ∈ spansOf position ps) : position ≤ s.start ∧
      s.stop ≤ position + Text.utf8Size (ps.flatMap Piece.source) := by
  obtain ⟨front, back, rfl, hstart, hstop⟩ := exists_append_of_mem_spansOf h
  have hsource : (Piece.placeholder s.content).source = s.source := rfl
  rw [List.flatMap_append, List.flatMap_cons, hsource, Text.utf8Size_append, Text.utf8Size_append]
  omega

theorem closing_notMem_of_mem_contents {content template : Text} (h : content ∈ contents template) :
    '}' ∉ content := by
  induction template using leads_induction with
  | nil => simp at h
  | placeholder content' after text hl ih =>
    rw [contents_of_leads hl] at h
    rcases List.mem_cons.mp h with rfl | h
    · exact hl.closing_notMem
    · exact ih h
  | char c rest hnot ih =>
    rw [contents_of_not_leads hnot] at h
    exact ih h

/-- A character in a gap belongs to no placeholder, since the spans in front of it end there and the
spans behind it start later. -/
theorem not_covered_of_pieces {template : Text} {before behind : List Piece} {c : Char}
    (h : pieces template = before ++ .char c :: behind) :
    ¬Covered template (before.flatMap Piece.source).length := by
  have htake : template.take (before.flatMap Piece.source).length =
      before.flatMap Piece.source := by
    rw [← flatMap_source_pieces template, h, List.flatMap_append, List.take_left]
  have hspans := spans_eq_spansOf template
  rw [h, spansOf_append, Nat.zero_add, spansOf] at hspans
  rintro ⟨s, hs, hstart, hstop⟩
  rw [htake] at hstart hstop
  rw [hspans, List.mem_append] at hs
  rcases hs with hs | hs
  · have := (bounds_of_mem_spansOf hs).2
    omega
  · have := (bounds_of_mem_spansOf hs).1
    have := Char.utf8Size_pos c
    omega

/-- A character in a gap starts no placeholder. -/
theorem not_leads_of_pieces {template : Text} {before behind : List Piece} {c : Char}
    (h : pieces template = before ++ .char c :: behind) (content after : Text) :
    ¬Leads content after (c :: behind.flatMap Piece.source) := by
  intro hl
  have hrest : pieces (c :: behind.flatMap Piece.source) = .char c :: behind := pieces_of_append h
  rw [pieces_of_leads hl] at hrest
  cases hrest

/-- The character at a place starts no placeholder and belongs to none, or it belongs to the source
of a span. -/
theorem place_cases {template : Text} {place : Nat} {c : Char} (h : template[place]? = some c) :
    (¬Covered template place ∧ ∀ content after, ¬Leads content after (template.drop place)) ∨
      ∃ s ∈ spans template, ∃ before x y behind, template = before ++ (s.source ++ behind) ∧
        s.start = Text.utf8Size before ∧ s.source = x ++ c :: y ∧
          (before ++ x).length = place := by
  obtain ⟨front, back, htemplate, rfl⟩ := Text.exists_append_of_getElem? h
  obtain ⟨before, p, behind, x, y, hpieces, hp, rfl, rfl⟩ :=
    exists_append_of_flatMap_source ((flatMap_source_pieces template).trans htemplate)
  cases p with
  | char d =>
    obtain ⟨rfl, rfl, rfl⟩ : x = [] ∧ d = c ∧ y = [] := by
      rcases x with _ | ⟨e, _ | ⟨f, x⟩⟩ <;> simp_all [Piece.source, Piece.fill]
    rw [List.append_nil]
    refine .inl ⟨not_covered_of_pieces hpieces, ?_⟩
    rw [htemplate, List.append_nil, List.drop_left]
    exact not_leads_of_pieces hpieces
  | placeholder content =>
    have hspans := spans_eq_spansOf template
    rw [hpieces, spansOf_append, Nat.zero_add, spansOf] at hspans
    refine .inr ⟨⟨_, _, content⟩, hspans ▸ List.mem_append_right _ List.mem_cons_self,
      before.flatMap Piece.source, x, y, behind.flatMap Piece.source, ?_, rfl, hp, rfl⟩
    rw [← flatMap_source_pieces template, hpieces, List.flatMap_append, List.flatMap_cons]
    rfl

/-- A character of a placeholder is its opening brace, a character of its content or its closing
brace. -/
theorem source_cases {s : Span} {x y : Text} {c : Char} (h : s.source = x ++ c :: y) :
    x = [] ∧ c = '{' ∧ y = s.content ++ ['}'] ∨ c ∈ s.content ∨
      x = '{' :: s.content ∧ c = '}' ∧ y = [] := by
  rw [Span.source] at h
  cases x with
  | nil =>
    obtain ⟨hc, hy⟩ := List.cons.inj h
    exact .inl ⟨rfl, hc.symm, hy.symm⟩
  | cons d x =>
    obtain ⟨rfl, hrest⟩ := List.cons.inj h
    refine .inr ?_
    rcases List.append_eq_append_iff.mp hrest with ⟨m, rfl, hm⟩ | ⟨m, hcontent, hm⟩
    · cases m with
      | nil =>
        obtain ⟨hc, hy⟩ := List.cons.inj hm
        exact .inr ⟨by rw [List.append_nil], hc.symm, hy.symm⟩
      | cons e m => simp at hm
    · cases m with
      | nil =>
        obtain ⟨hc, hy⟩ := List.cons.inj hm
        exact .inr ⟨by simp [hcontent], hc, hy⟩
      | cons e m =>
        obtain ⟨rfl, -⟩ := List.cons.inj hm
        exact .inl (hcontent ▸ List.mem_append_right _ List.mem_cons_self)

theorem stop_eq_of_mem_spans {s : Span} {template : Text} (h : s ∈ spans template) :
    s.stop = s.start + Text.utf8Size s.source := by
  obtain ⟨-, -, -, -, hstop⟩ := exists_append_of_mem_spans h
  exact hstop

/-- Every character of the source of a span is covered, and the first and the last delimit it. -/
theorem covers_of_source {s : Span} {template before x y behind : Text} {c : Char}
    (hs : s ∈ spans template) (htemplate : template = before ++ (s.source ++ behind))
    (hstart : s.start = Text.utf8Size before) (hsource : s.source = x ++ c :: y) :
    Covered template (before ++ x).length ∧
      (x = [] ∨ c = '}' ∧ y = [] → Delimiter template (before ++ x).length) := by
  have htake : template.take (before ++ x).length = before ++ x := by
    rw [htemplate, hsource, List.append_assoc, ← List.append_assoc before, List.take_left]
  have hstop := stop_eq_of_mem_spans hs
  have hc := Char.utf8Size_pos c
  rw [hstart, hsource, Text.utf8Size_append, Text.utf8Size_cons] at hstop
  refine ⟨⟨s, hs, ?_⟩, fun hends => ⟨s, hs, ?_⟩⟩
  · rw [Span.Covers, htake, Text.utf8Size_append]
    omega
  · rw [Span.Delimits, htake, Text.utf8Size_append]
    rcases hends with rfl | ⟨rfl, rfl⟩
    · exact .inl hstart.symm
    · have hsize : '}'.utf8Size = 1 := rfl
      rw [hsize, Text.utf8Size_nil] at hstop
      omega

theorem Delimiter.covered {template : Text} {place : Nat} (h : Delimiter template place) :
    Covered template place := by
  obtain ⟨s, hs, hends⟩ := h
  have hstop := stop_eq_of_mem_spans hs
  rw [utf8Size_source] at hstop
  refine ⟨s, hs, ?_⟩
  rw [Span.Delimits] at hends
  rw [Span.Covers]
  omega

end Template

end LinkTemplate
