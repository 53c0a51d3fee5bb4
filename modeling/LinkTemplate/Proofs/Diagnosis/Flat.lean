import LinkTemplate.Proofs.Diagnosis.Partners

/-!
# Templates without nesting

Placeholders do not nest : an opening brace inside one belongs to its content. The brace check
lets braces nest. In a flat template, where no placeholder holds an opening brace (`Flat`), the two
readings agree : the braces without a partner are the closing braces outside the placeholders that
do not end a `{}`, and the opening braces with no closing brace behind them
(`loneClosing_iff_stray`, `loneOpening_iff_neverClosed`).

An opening brace of a flat template starts a placeholder, or it stands outside of them and starts a
`{}` or is never closed (`opening_cases`). In the first two cases its partner is the end of what it
starts.
-/

namespace LinkTemplate.Template

/-- No placeholder holds an opening brace. -/
def Flat (template : Text) : Prop :=
  ∀ s ∈ spans template, '{' ∉ s.content

instance (template : Text) : Decidable (Flat template) :=
  inferInstanceAs (Decidable (∀ s ∈ spans template, '{' ∉ s.content))

/-- The character at a place is one of the two of a `{}`. -/
def InEmptyPair (template : Text) (place : Nat) : Prop :=
  template[place]? = some '{' ∧ template[place + 1]? = some '}' ∨
    0 < place ∧ template[place - 1]? = some '{' ∧ template[place]? = some '}'

/-- A closing brace outside the placeholders with no opening brace outside the placeholders directly
in front of it. -/
def StrayClosing (template : Text) (place : Nat) : Prop :=
  template[place]? = some '}' ∧ ¬Covered template place ∧
    ¬(0 < place ∧ template[place - 1]? = some '{' ∧ ¬Covered template (place - 1))

/-- An opening brace with no closing brace behind it. -/
def NeverClosed (template : Text) (place : Nat) : Prop :=
  template[place]? = some '{' ∧ '}' ∉ template.drop (place + 1)

instance (template : Text) (place : Nat) : Decidable (StrayClosing template place) :=
  inferInstanceAs (Decidable (_ ∧ _ ∧ ¬(_ ∧ _ ∧ _)))

instance (template : Text) (place : Nat) : Decidable (NeverClosed template place) :=
  inferInstanceAs (Decidable (_ ∧ _))

/-! ## Flat templates -/

theorem balanced_of_notMem {text : Text} (hopening : '{' ∉ text) (hclosing : '}' ∉ text) :
    Balanced text := by
  induction text with
  | nil => exact .nil
  | cons c rest ih =>
    rw [List.mem_cons, not_or] at hopening hclosing
    exact .char (Ne.symm hopening.1) (Ne.symm hclosing.1) (ih hopening.2 hclosing.2)

variable {template : Text} {place : Nat}

/-- The two braces of a placeholder without an opening brace inside are partners. -/
theorem Flat.partners (hflat : Flat template) {s : Span} (hs : s ∈ spans template)
    {before behind : Text} (h : template = before ++ (s.source ++ behind)) :
    Partners template before.length (before ++ '{' :: s.content).length := by
  have hclosing : '}' ∉ s.content :=
    closing_notMem_of_mem_contents (mem_contents_iff_spans.mpr ⟨s, hs, rfl⟩)
  refine partners_iff.mpr ⟨before, s.content, behind, ?_,
    balanced_of_notMem (hflat s hs) hclosing, rfl, rfl⟩
  rw [h, Span.source]
  simp

/-- An opening brace of a flat template starts a placeholder, or it stands outside of them and
starts a `{}` or is never closed. -/
theorem opening_cases (hflat : Flat template) (h : template[place]? = some '{') :
    (Delimiter template place ∧ ∃ p, Partners template place p ∧ Covered template p) ∨
      ¬Covered template place ∧
        (template[place + 1]? = some '}' ∨ NeverClosed template place) := by
  rcases place_cases h with
    ⟨hnot, hleads⟩ | ⟨s, hs, before, x, y, behind, htemplate, hstart, hsource, hplace⟩
  · obtain ⟨front, back, rfl, rfl⟩ := Text.exists_append_of_getElem? h
    rw [List.drop_left] at hleads
    refine .inr ⟨hnot, (forall_not_leads_iff.mp hleads).imp (fun hhead => ?_) fun hmem => ⟨h, ?_⟩⟩
    · rw [← List.head?_drop, Text.drop_length_append, hhead]
    · rwa [Text.drop_length_append]
  · rcases source_cases hsource with ⟨rfl, -, -⟩ | hmem | ⟨-, hc, -⟩
    · have hdelimiter := (covers_of_source hs htemplate hstart hsource).2 (.inl rfl)
      have hend : s.source = '{' :: s.content ++ '}' :: [] := rfl
      rw [hplace] at hdelimiter
      rw [List.append_nil] at hplace
      exact .inl ⟨hdelimiter, _, hplace ▸ hflat.partners hs htemplate,
        (covers_of_source hs htemplate hstart hend).1⟩
    · exact absurd hmem (hflat s hs)
    · exact absurd hc (by decide)

/-- A closing brace of a flat template stands outside the placeholders or ends one. -/
theorem closing_cases (hflat : Flat template) (h : template[place]? = some '}') :
    ¬Covered template place ∨ Delimiter template place ∧ ∃ q, Partners template q place := by
  rcases place_cases h with
    ⟨hnot, -⟩ | ⟨s, hs, before, x, y, behind, htemplate, hstart, hsource, rfl⟩
  · exact .inl hnot
  · rcases source_cases hsource with ⟨-, hc, -⟩ | hmem | ⟨rfl, -, rfl⟩
    · exact absurd hc (by decide)
    · exact absurd hmem
        (closing_notMem_of_mem_contents (mem_contents_iff_spans.mpr ⟨s, hs, rfl⟩))
    · exact .inr ⟨(covers_of_source hs htemplate hstart hsource).2 (.inr ⟨rfl, rfl⟩),
        _, hflat.partners hs htemplate⟩

theorem partners_pred (hpos : 0 < place) (hopening : template[place - 1]? = some '{')
    (hclosing : template[place]? = some '}') : Partners template (place - 1) place := by
  have hplace : place - 1 + 1 = place := Nat.sub_add_cancel hpos
  rw [← hplace] at hclosing
  exact hplace ▸ partners_of_adjacent hopening hclosing

/-! ## Lone braces of flat templates -/

theorem loneClosing_iff_stray (hflat : Flat template) :
    LoneClosing template place ↔ StrayClosing template place := by
  constructor
  · rintro ⟨hclosing, hnot⟩
    refine ⟨hclosing, (closing_cases hflat hclosing).resolve_right ?_, ?_⟩
    · rintro ⟨-, q, hq⟩
      exact hnot q hq
    · rintro ⟨hpos, hopening, -⟩
      exact hnot _ (partners_pred hpos hopening hclosing)
  · rintro ⟨hclosing, hcovered, hpair⟩
    refine ⟨hclosing, fun q hq => ?_⟩
    rcases opening_cases hflat hq.opening_eq with
      ⟨-, p, hp, hpcovered⟩ | ⟨hnot, hnext | ⟨-, hmem⟩⟩
    · exact hcovered (hq.closing_unique hp ▸ hpcovered)
    · obtain rfl := hq.closing_unique (partners_of_adjacent hq.opening_eq hnext)
      exact hpair ⟨Nat.succ_pos q, hq.opening_eq, hnot⟩
    · exact hmem hq.closing_mem_drop

theorem loneOpening_iff_neverClosed (hflat : Flat template) :
    LoneOpening template place ↔ NeverClosed template place := by
  constructor
  · rintro ⟨hopening, hnot⟩
    rcases opening_cases hflat hopening with ⟨-, p, hp, -⟩ | ⟨-, hnext | hnever⟩
    · exact absurd hp (hnot p)
    · exact absurd (partners_of_adjacent hopening hnext) (hnot _)
    · exact hnever
  · rintro ⟨hopening, hmem⟩
    exact ⟨hopening, fun p hp => hmem hp.closing_mem_drop⟩

/-- The brace check accepts a flat template if every brace delimits a placeholder or belongs to a
`{}`. -/
theorem braceProblems_eq_nil_iff_of_flat (hflat : Flat template) :
    braceProblems template = [] ↔
      ∀ place, template[place]? = some '{' ∨ template[place]? = some '}' →
        Delimiter template place ∨ InEmptyPair template place := by
  rw [braceProblems_eq_nil_iff_lone]
  constructor
  · rintro ⟨hclosings, hopenings⟩ place (hopening | hclosing)
    · rcases opening_cases hflat hopening with ⟨hdelimiter, -⟩ | ⟨-, hnext | hnever⟩
      · exact .inl hdelimiter
      · exact .inr (.inl ⟨hopening, hnext⟩)
      · exact absurd ((loneOpening_iff_neverClosed hflat).mpr hnever) (hopenings place)
    · rcases closing_cases hflat hclosing with hnot | ⟨hdelimiter, -⟩
      · refine .inr (.inr (Decidable.byContradiction fun hpair => hclosings place ?_))
        exact (loneClosing_iff_stray hflat).mpr
          ⟨hclosing, hnot, fun h => hpair ⟨h.1, h.2.1, hclosing⟩⟩
      · exact .inl hdelimiter
  · intro hall
    refine ⟨fun p hlone => ?_, fun q hlone => ?_⟩
    · obtain ⟨hclosing, hnot, -⟩ := (loneClosing_iff_stray hflat).mp hlone
      rcases hall p (.inr hclosing) with hdelimiter | ⟨hopening, -⟩ | ⟨hpos, hopening, -⟩
      · exact hnot hdelimiter.covered
      · simp [hopening] at hclosing
      · exact hlone.not_partners _ (partners_pred hpos hopening hclosing)
    · have hopening := hlone.opening_eq
      rcases opening_cases hflat hopening with ⟨-, p, hp, -⟩ | ⟨hnot, -⟩
      · exact hlone.not_partners p hp
      · rcases hall q (.inl hopening) with hdelimiter | ⟨-, hnext⟩ | ⟨-, -, hclosing⟩
        · exact hnot hdelimiter.covered
        · exact hlone.not_partners _ (partners_of_adjacent hopening hnext)
        · simp [hopening] at hclosing

/-- Two readings of a template without an opening brace inside a placeholder : the brace check
accepts it if every brace delimits a placeholder or is one of the two of a `{}`, and only then;
and what it reports are the closing braces outside the placeholders with no opening brace outside
of them directly in front, and then the last opening brace with no closing brace behind it. -/
theorem flat_reports_exact (hflat : Flat template) :
    (braceProblems template = [] ↔
      ∀ place, template[place]? = some '{' ∨ template[place]? = some '}' →
        Delimiter template place ∨ InEmptyPair template place) ∧
    braceProblems template =
      ((List.range template.length).filter (StrayClosing template)).map .unexpectedClosing ++
        (((List.range template.length).filter (NeverClosed template)).max?.map
          .unclosed).toList := by
  refine ⟨braceProblems_eq_nil_iff_of_flat hflat, ?_⟩
  simp only [braceProblems_eq, loneClosings, loneOpenings, loneClosing_iff_stray hflat,
    loneOpening_iff_neverClosed hflat]

/-- A closing brace behind a character of two bytes, a placeholder, a `{}` with one more closing
brace, and two opening braces that are left open. -/
theorem flat_reports_exact_stray :
    let template := ['é', '}', '{', 'a', '}', '{', '}', '}', '{', 'x', '{']
    Flat template ∧
      braceProblems template = [.unexpectedClosing 1, .unexpectedClosing 7, .unclosed 10] := by
  intro template
  have hflat : Flat template := by decide +kernel
  obtain ⟨-, hproblems⟩ := flat_reports_exact hflat
  exact ⟨hflat, hproblems.trans (by decide +kernel)⟩

end LinkTemplate.Template
