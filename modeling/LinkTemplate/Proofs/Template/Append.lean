import LinkTemplate.Proofs.Template.Pieces

/-!
# Templates one behind the other

A template in which every opening brace has a closing brace behind it (`Closed`) ends outside
placeholders, so what follows it is read as if it stood alone : the pieces, the contents and the
spans of `a ++ b` are those of `a` and then those of `b`, where the spans of `b` stand further
on by the size of `a` (`spans_append`).
-/

namespace LinkTemplate

/-- The span in a template with `n` more bytes in front. -/
def Span.shift (n : Nat) (s : Span) : Span :=
  { s with start := n + s.start, stop := n + s.stop }

@[simp] theorem Span.content_shift (n : Nat) (s : Span) : (s.shift n).content = s.content := rfl

namespace Template

/-! ## Closed templates -/

/-- Some closing brace stands behind every opening brace. -/
def Closed (template : Text) : Prop :=
  ∀ front back, template = front ++ '{' :: back → '}' ∈ back

theorem closed_nil : Closed [] := by
  intro front back h
  simp at h

theorem closed_cons_iff {c : Char} {rest : Text} :
    Closed (c :: rest) ↔ (c = '{' → '}' ∈ rest) ∧ Closed rest := by
  constructor
  · intro h
    exact ⟨fun hc => h [] rest (by rw [hc]; rfl), fun front back hrest =>
      h (c :: front) back (by rw [hrest, List.cons_append])⟩
  · rintro ⟨hopening, hrest⟩ front back h
    cases front with
    | nil =>
      obtain ⟨hc, rfl⟩ := List.cons.inj h
      exact hopening hc
    | cons d front => exact hrest front back (List.cons.inj h).2

instance decidableClosed : DecidablePred Closed
  | [] => isTrue closed_nil
  | _ :: rest =>
    have := decidableClosed rest
    decidable_of_iff _ closed_cons_iff.symm

theorem Closed.of_append {front back : Text} (h : Closed (front ++ back)) : Closed back := by
  intro before after hback
  exact h (front ++ before) after (by rw [hback, List.append_assoc])

theorem Closed.of_leads {content after text : Text} (h : Closed text)
    (hl : Leads content after text) : Closed after := by
  have htext : text = ('{' :: content ++ ['}']) ++ after := by rw [hl.eq_append]; simp
  exact (htext ▸ h).of_append

/-- What stands behind a text has no part in the placeholder that the text starts with. -/
theorem Leads.append {content after text : Text} (h : Leads content after text) (back : Text) :
    Leads content (after ++ back) (text ++ back) :=
  ⟨h.nonempty, h.closing_notMem, by rw [h.eq_append]; simp⟩

/-- A closed text that starts with no placeholder starts with none when more follows : the first
closing brace behind an opening brace is in the text itself. -/
theorem not_leads_append {c : Char} {rest : Text} (hclosed : Closed (c :: rest))
    (h : ∀ content after, ¬Leads content after (c :: rest)) (back : Text) :
    ∀ content after, ¬Leads content after (c :: (rest ++ back)) := by
  intro content after hl
  obtain ⟨rfl, hrest⟩ := List.cons.inj hl.eq_append
  cases hcut : Text.cut? '}' rest with
  | none => exact Text.cut?_eq_none_iff.mp hcut (hclosed [] rest rfl)
  | some p =>
    obtain ⟨front, behind⟩ := p
    obtain ⟨rfl, hmem⟩ := Text.eq_of_cut? hcut
    obtain rfl : front = [] :=
      Decidable.byContradiction fun hne => h front behind ⟨hne, hmem, rfl⟩
    cases content with
    | nil => exact hl.nonempty rfl
    | cons d content =>
      obtain ⟨rfl, -⟩ := List.cons.inj hrest
      exact hl.closing_notMem List.mem_cons_self

/-! ## Pieces -/

theorem pieces_append {a : Text} (h : Closed a) (b : Text) :
    pieces (a ++ b) = pieces a ++ pieces b := by
  induction a using leads_induction with
  | nil => simp
  | placeholder content after text hl ih =>
    rw [pieces_of_leads (hl.append b), pieces_of_leads hl, ih (h.of_leads hl), List.cons_append]
  | char c rest hnot ih =>
    have hrest : Closed rest := (closed_cons_iff.mp h).2
    rw [List.cons_append, pieces_of_not_leads (not_leads_append h hnot b),
      pieces_of_not_leads hnot, ih hrest, List.cons_append]

theorem contents_append {a : Text} (h : Closed a) (b : Text) :
    contents (a ++ b) = contents a ++ contents b := by
  rw [contents, pieces_append h, List.filterMap_append, contents, contents]

/-! ## Spans -/

theorem spansOf_append (position : Nat) (ps qs : List Piece) :
    spansOf position (ps ++ qs) =
      spansOf position ps ++ spansOf (position + Text.utf8Size (ps.flatMap Piece.source)) qs := by
  induction ps generalizing position with
  | nil => rfl
  | cons p ps ih =>
    cases p with
    | char c =>
      simp only [List.cons_append, spansOf, ih]
      simp [Piece.source, Piece.fill, Nat.add_assoc]
    | placeholder content =>
      have hsize : position + Text.utf8Size ((.placeholder content :: ps).flatMap Piece.source) =
          position + Text.utf8Size content + 2 + Text.utf8Size (ps.flatMap Piece.source) := by
        simp [Piece.source, Piece.fill, show '{'.utf8Size = 1 from rfl,
          show '}'.utf8Size = 1 from rfl]
        omega
      simp only [List.cons_append, spansOf, ih, hsize]

theorem spansOf_add (n position : Nat) (ps : List Piece) :
    spansOf (n + position) ps = (spansOf position ps).map (Span.shift n) := by
  induction ps generalizing position with
  | nil => rfl
  | cons p ps ih =>
    cases p with
    | char c => rw [spansOf, spansOf, Nat.add_assoc, ih]
    | placeholder content =>
      have hstop : n + position + Text.utf8Size content + 2 =
          n + (position + Text.utf8Size content + 2) := by
        omega
      rw [spansOf, spansOf, List.map_cons, ← ih, hstop]
      rfl

theorem spans_append {a : Text} (h : Closed a) (b : Text) :
    spans (a ++ b) = spans a ++ (spans b).map (Span.shift (Text.utf8Size a)) := by
  simp only [spans_eq_spansOf, pieces_append h, spansOf_append, flatMap_source_pieces,
    ← spansOf_add, Nat.zero_add, Nat.add_zero]

end Template

end LinkTemplate
