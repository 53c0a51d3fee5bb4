import LinkTemplate.Proofs.Template.Pieces

/-!
# Spans as a matching

The spans of a template are what an opening brace, one or more characters other than a closing
brace, and a closing brace match from left to right without overlap, and nothing of the kind is
missed. `Matches` says this of a list of spans by their positions : each span stands where it says,
they follow one another, an opening brace between them is closed at once, and one behind the last
of them is closed at once or never. There is one such list (`matches_iff_eq_spans`).

`Interleaves` says the same without positions in the template : gaps and placeholders in turn make
up the text. It is the shape that the pieces of a template have.
-/

namespace LinkTemplate

/-! ## Cutting behind a known part -/

namespace Text

theorem takeBytes_append_of_le {s : Text} {n : Nat} (h : utf8Size s ≤ n) (t : Text) :
    takeBytes n (s ++ t) = s ++ takeBytes (n - utf8Size s) t := by
  induction s generalizing n with
  | nil => rfl
  | cons c s ih =>
    rw [utf8Size_cons] at h
    have hc : ¬n < c.utf8Size := by omega
    have hs : utf8Size s ≤ n - c.utf8Size := by omega
    rw [List.cons_append, takeBytes, if_neg hc, ih hs, utf8Size_cons, Nat.sub_sub, List.cons_append]

theorem dropBytes_append_of_le {s : Text} {n : Nat} (h : utf8Size s ≤ n) (t : Text) :
    dropBytes n (s ++ t) = dropBytes (n - utf8Size s) t := by
  have hcut := takeBytes_append_dropBytes n (s ++ t)
  rw [takeBytes_append_of_le h, List.append_assoc] at hcut
  exact List.append_cancel_left ((List.append_cancel_left hcut).trans
    (takeBytes_append_dropBytes (n - utf8Size s) t).symm)

theorem isBoundary_utf8Size (s t : Text) : IsBoundary (utf8Size s) (s ++ t) := by
  rw [IsBoundary, takeBytes_utf8Size_append]

end Text

/-! ## Matchings -/

/-- The span stands in a template between the positions that it says, and is a placeholder. -/
structure Span.StandsIn (s : Span) (template : Text) : Prop where
  start_lt_stop : s.start < s.stop
  start_isBoundary : Text.IsBoundary s.start template
  stop_isBoundary : Text.IsBoundary s.stop template
  slice_eq : Text.slice s.start s.stop template = s.source
  content_ne_nil : s.content ≠ []
  closing_notMem : '}' ∉ s.content

namespace Template

/-- A closing brace follows every opening brace. -/
def ClosedAtOnce (text : Text) : Prop :=
  ∀ front back, text = front ++ '{' :: back → back.head? = some '}'

/-- A closing brace follows every opening brace that has one anywhere behind it. -/
def ClosedAtOnceOrNever (text : Text) : Prop :=
  ∀ front back, text = front ++ '{' :: back → back.head? = some '}' ∨ '}' ∉ back

/-- The text in front of each span, from position `cursor` or from the span before. -/
def gaps (template : Text) (cursor : Nat) : List Span → List Text
  | [] => []
  | s :: ss => Text.slice cursor s.start template :: gaps template s.stop ss

/-- The position behind the last span, or `cursor` if there is none. -/
def lastStop (cursor : Nat) : List Span → Nat
  | [] => cursor
  | s :: ss => lastStop s.stop ss

/-- The spans match a template from position `cursor` on, and leave nothing out. -/
structure MatchesFrom (cursor : Nat) (template : Text) (ss : List Span) : Prop where
  standsIn : ∀ s ∈ ss, s.StandsIn template
  cursor_le : ∀ s ∈ ss, cursor ≤ s.start
  apart : ss.Pairwise fun s s' => s.stop ≤ s'.start
  between : ∀ gap ∈ gaps template cursor ss, ClosedAtOnce gap
  behind : ClosedAtOnceOrNever (Text.dropBytes (lastStop cursor ss) template)

/-- The spans match a template from its start on, and leave nothing out. -/
def Matches (template : Text) (ss : List Span) : Prop :=
  MatchesFrom 0 template ss

theorem matchesFrom_nil {cursor : Nat} {template : Text} :
    MatchesFrom cursor template [] ↔ ClosedAtOnceOrNever (Text.dropBytes cursor template) :=
  ⟨fun h => h.behind, fun h => ⟨by simp, by simp, .nil, by simp [gaps], h⟩⟩

theorem matchesFrom_cons {cursor : Nat} {template : Text} {s : Span} {ss : List Span} :
    MatchesFrom cursor template (s :: ss) ↔
      (cursor ≤ s.start ∧ s.StandsIn template ∧
        ClosedAtOnce (Text.slice cursor s.start template)) ∧ MatchesFrom s.stop template ss := by
  constructor
  · rintro ⟨hstands, hcursor, hapart, hbetween, hbehind⟩
    obtain ⟨hs, hss⟩ := List.forall_mem_cons.mp hstands
    obtain ⟨hfirst, hrest⟩ := List.pairwise_cons.mp hapart
    obtain ⟨hgap, hgaps⟩ := List.forall_mem_cons.mp hbetween
    exact ⟨⟨hcursor s List.mem_cons_self, hs, hgap⟩, hss, hfirst, hrest, hgaps, hbehind⟩
  · rintro ⟨⟨hcursor, hs, hgap⟩, hss, hfirst, hrest, hgaps, hbehind⟩
    refine ⟨List.forall_mem_cons.mpr ⟨hs, hss⟩, List.forall_mem_cons.mpr ⟨hcursor, ?_⟩,
      List.pairwise_cons.mpr ⟨hfirst, hrest⟩, List.forall_mem_cons.mpr ⟨hgap, hgaps⟩, hbehind⟩
    intro s' hs'
    have := hs.start_lt_stop
    have := hfirst s' hs'
    omega

/-! ## Without positions -/

/-- The text, which stands at a position, is gaps without placeholders and the placeholders of the
spans in turn. -/
inductive Interleaves : Nat → Text → List Span → Prop
  | tail {position : Nat} {text : Text} (h : ClosedAtOnceOrNever text) : Interleaves position text []
  | span {position : Nat} {gap content after : Text} {ss : List Span} (hgap : ClosedAtOnce gap)
      (hne : content ≠ []) (hmem : '}' ∉ content)
      (hafter : Interleaves (position + Text.utf8Size gap + Text.utf8Size content + 2) after ss) :
    Interleaves position (gap ++ ('{' :: content ++ '}' :: after))
      (⟨position + Text.utf8Size gap, position + Text.utf8Size gap + Text.utf8Size content + 2,
        content⟩ :: ss)

theorem utf8Size_source (s : Span) : Text.utf8Size s.source = Text.utf8Size s.content + 2 := by
  simp [Span.source, show '{'.utf8Size = 1 from rfl, show '}'.utf8Size = 1 from rfl]
  omega

theorem utf8Size_append_placeholder (front gap content : Text) :
    Text.utf8Size (front ++ gap ++ '{' :: content ++ ['}']) =
      Text.utf8Size front + Text.utf8Size gap + Text.utf8Size content + 2 := by
  simp [show '{'.utf8Size = 1 from rfl, show '}'.utf8Size = 1 from rfl]
  omega

/-- A span that starts behind a part of the template has a gap behind that part, its source, and
the rest of the template behind. -/
theorem standsIn_append_iff {front text : Text} {s : Span} (h : Text.utf8Size front ≤ s.start) :
    s.StandsIn (front ++ text) ↔ s.content ≠ [] ∧ '}' ∉ s.content ∧
      ∃ gap after, text = gap ++ (s.source ++ after) ∧
        s.start = Text.utf8Size front + Text.utf8Size gap ∧
        s.stop = s.start + Text.utf8Size s.source := by
  constructor
  · rintro ⟨hlt, hstart, hstop, hslice, hne, hmem⟩
    obtain ⟨n, hn⟩ := Nat.exists_eq_add_of_le h
    obtain ⟨m, hm⟩ := Nat.exists_eq_add_of_le (Nat.le_of_lt hlt)
    have hgap : Text.takeBytes n text ++ Text.dropBytes n text = text :=
      Text.takeBytes_append_dropBytes n text
    rw [Text.IsBoundary, hn, Text.takeBytes_append_of_le (Nat.le_add_right _ _),
      Nat.add_sub_cancel_left, Text.utf8Size_append] at hstart
    have hsize : Text.utf8Size (Text.takeBytes n text) = n := Nat.add_left_cancel hstart
    rw [Text.slice, hm, Nat.add_sub_cancel_left, hn,
      Text.dropBytes_append_of_le (Nat.le_add_right _ _), Nat.add_sub_cancel_left] at hslice
    refine ⟨hne, hmem, Text.takeBytes n text, Text.dropBytes m (Text.dropBytes n text), ?_, ?_, ?_⟩
    · rw [← hslice, Text.takeBytes_append_dropBytes, hgap]
    · rw [hsize, hn]
    · have hfront : Text.utf8Size (front ++ Text.takeBytes n text) = s.start := by
        rw [Text.utf8Size_append, hsize, hn]
      rw [Text.IsBoundary, ← hgap, ← List.append_assoc, hm, ← hfront,
        Text.takeBytes_append_of_le (Nat.le_add_right _ _), Nat.add_sub_cancel_left, hslice,
        Text.utf8Size_append, hfront] at hstop
      rw [hm, Nat.add_left_cancel hstop]
  · rintro ⟨hne, hmem, gap, after, rfl, hstart, hstop⟩
    have hfront : Text.utf8Size (front ++ gap) = s.start := by rw [Text.utf8Size_append, hstart]
    have htemplate : front ++ (gap ++ (s.source ++ after)) =
        front ++ gap ++ (s.source ++ after) := by simp
    refine ⟨?_, ?_, ?_, ?_, hne, hmem⟩
    · rw [hstop, utf8Size_source]
      omega
    · rw [htemplate, ← hfront]
      exact Text.isBoundary_utf8Size _ _
    · rw [htemplate, ← List.append_assoc, hstop, ← hfront, ← Text.utf8Size_append]
      exact Text.isBoundary_utf8Size _ _
    · rw [htemplate, hstop, ← hfront, Text.slice_append]

/-- A matching from the end of `front` on cuts what stands there into gaps and placeholders. -/
theorem matchesFrom_iff_interleaves {front text : Text} {ss : List Span} :
    MatchesFrom (Text.utf8Size front) (front ++ text) ss ↔
      Interleaves (Text.utf8Size front) text ss := by
  induction ss generalizing front text with
  | nil =>
    rw [matchesFrom_nil, Text.dropBytes_utf8Size_append]
    constructor
    · exact .tail
    · rintro ⟨h⟩
      exact h
  | cons s ss ih =>
    rw [matchesFrom_cons]
    constructor
    · rintro ⟨⟨hle, hs, hgap⟩, hss⟩
      obtain ⟨hne, hmem, gap, after, rfl, hstart, hstop⟩ := (standsIn_append_iff hle).mp hs
      obtain ⟨start, stop, content⟩ := s
      rw [utf8Size_source, ← Nat.add_assoc] at hstop
      simp only at hstart hstop hss
      subst hstart hstop
      rw [Text.slice_append] at hgap
      have hafter := @ih (front ++ gap ++ '{' :: content ++ ['}']) after
      rw [utf8Size_append_placeholder] at hafter
      have hrest := hafter.mp (by simpa [Span.source] using hss)
      simpa [Span.source] using Interleaves.span hgap hne hmem hrest
    · intro h
      cases h with
      | @span _ gap content after _ hgap hne hmem hafter =>
        have hrest := @ih (front ++ gap ++ '{' :: content ++ ['}']) after
        rw [utf8Size_append_placeholder] at hrest
        refine ⟨⟨Nat.le_add_right _ _, (standsIn_append_iff (Nat.le_add_right _ _)).mpr
          ⟨hne, hmem, gap, after, by simp [Span.source], rfl, ?_⟩, ?_⟩, ?_⟩
        · rw [utf8Size_source, Nat.add_assoc]
        · rw [Text.slice_append]
          exact hgap
        · simpa using hrest.mpr hafter

/-! ## The pieces interleave -/

/-- A closing brace at the start of a text, or none in it, keeps an opening brace in front from
starting a placeholder. -/
theorem forall_not_leads_iff {rest : Text} :
    (∀ content after, ¬Leads content after ('{' :: rest)) ↔
      rest.head? = some '}' ∨ '}' ∉ rest := by
  constructor
  · intro h
    cases hcut : Text.cut? '}' rest with
    | none => exact .inr (Text.cut?_eq_none_iff.mp hcut)
    | some p =>
      obtain ⟨front, behind⟩ := p
      obtain ⟨rfl, hmem⟩ := Text.eq_of_cut? hcut
      obtain rfl : front = [] := Decidable.byContradiction fun hne => h front behind ⟨hne, hmem, rfl⟩
      exact .inl rfl
  · rintro h content after ⟨hne, hmem, htext⟩
    obtain rfl : rest = content ++ '}' :: after := (List.cons.inj htext).2
    obtain ⟨d, content, rfl⟩ := List.exists_cons_of_ne_nil hne
    rcases h with h | h
    · obtain rfl : d = '}' := by simpa using h
      exact hmem List.mem_cons_self
    · exact h (by simp)

theorem forall_not_leads_of_head {c : Char} {rest : Text}
    (h : c = '{' → rest.head? = some '}' ∨ '}' ∉ rest) :
    ∀ content after, ¬Leads content after (c :: rest) := by
  intro content after hl
  obtain rfl : c = '{' := (List.cons.inj hl.eq_append).1
  exact forall_not_leads_iff.mpr (h rfl) content after hl

theorem ClosedAtOnceOrNever.spansOf_eq_nil {text : Text} (h : ClosedAtOnceOrNever text)
    (position : Nat) : spansOf position (pieces text) = [] := by
  induction text generalizing position with
  | nil => simp [spansOf]
  | cons c rest ih =>
    have hrest : ClosedAtOnceOrNever rest := fun front back htext =>
      h (c :: front) back (by rw [htext, List.cons_append])
    have hopening : c = '{' → rest.head? = some '}' ∨ '}' ∉ rest := fun hc =>
      h [] rest (by rw [hc, List.nil_append])
    rw [pieces_of_not_leads (forall_not_leads_of_head hopening), spansOf, ih hrest]

theorem ClosedAtOnce.spansOf_append {gap : Text} (h : ClosedAtOnce gap) (position : Nat)
    (text : Text) :
    spansOf position (pieces (gap ++ text)) =
      spansOf (position + Text.utf8Size gap) (pieces text) := by
  induction gap generalizing position with
  | nil => rfl
  | cons c gap ih =>
    have hgap : ClosedAtOnce gap := fun front back htext =>
      h (c :: front) back (by rw [htext, List.cons_append])
    have hnot : ∀ content after, ¬Leads content after (c :: (gap ++ text)) := by
      refine forall_not_leads_of_head fun hc => .inl ?_
      rw [List.head?_append, h [] gap (by rw [hc, List.nil_append]), Option.some_or]
    rw [List.cons_append, pieces_of_not_leads hnot, spansOf, ih hgap, Text.utf8Size_cons,
      Nat.add_assoc]

theorem Interleaves.eq_spansOf {position : Nat} {text : Text} {ss : List Span}
    (h : Interleaves position text ss) : ss = spansOf position (pieces text) := by
  induction h with
  | tail h => rw [h.spansOf_eq_nil]
  | @span position gap content after ss hgap hne hmem hafter ih =>
    rw [hgap.spansOf_append, pieces_of_leads ⟨hne, hmem, rfl⟩, spansOf, ← ih]

/-- A character that starts no placeholder belongs to the first gap, or to the tail. -/
theorem Interleaves.cons {position : Nat} {c : Char} {rest : Text} {ss : List Span}
    (hnot : ∀ content after, ¬Leads content after (c :: rest))
    (h : Interleaves (position + c.utf8Size) rest ss) : Interleaves position (c :: rest) ss := by
  have hopening : c = '{' → rest.head? = some '}' ∨ '}' ∉ rest := by
    rintro rfl
    exact forall_not_leads_iff.mp hnot
  cases h with
  | tail h =>
    refine .tail fun front back htext => ?_
    cases front with
    | nil =>
      obtain ⟨hc, rfl⟩ := List.cons.inj htext
      exact hopening hc
    | cons d front => exact h front back (List.cons.inj htext).2
  | @span _ gap content after ss hgap hne hmem hafter =>
    have hclosed : ClosedAtOnce (c :: gap) := by
      intro front back htext
      cases front with
      | nil =>
        obtain ⟨hc, rfl⟩ := List.cons.inj htext
        have hhead := (hopening hc).resolve_right (by simp)
        cases gap with
        | nil => simp at hhead
        | cons d gap => simpa using hhead
      | cons d front => exact hgap front back (List.cons.inj htext).2
    have hposition : position + c.utf8Size + Text.utf8Size gap =
        position + Text.utf8Size (c :: gap) := by
      rw [Text.utf8Size_cons, Nat.add_assoc]
    rw [hposition] at hafter ⊢
    exact .span hclosed hne hmem hafter

theorem interleaves_spansOf (position : Nat) (text : Text) :
    Interleaves position text (spansOf position (pieces text)) := by
  induction text using leads_induction generalizing position with
  | nil =>
    rw [pieces_nil]
    exact .tail fun front back h => by simp at h
  | placeholder content after text hl ih =>
    have hgap : ClosedAtOnce [] := fun front back h => by simp at h
    rw [pieces_of_leads hl, hl.eq_append]
    exact .span hgap hl.nonempty hl.closing_notMem (ih _)
  | char c rest hnot ih =>
    rw [pieces_of_not_leads hnot, spansOf]
    exact .cons hnot (ih _)

/-- The spans of a template match it without leaving anything out, and no other list does : each
stands in the template between two positions at which characters begin or end, as an opening
brace, its content and a closing brace; the next one starts behind it; and what stands between
them and behind them holds no further placeholder. -/
theorem matches_iff_eq_spans (template : Text) (ss : List Span) :
    Matches template ss ↔ ss = spans template := by
  have hiff : Matches template ss ↔ Interleaves 0 template ss :=
    @matchesFrom_iff_interleaves [] template ss
  rw [hiff, spans_eq_spansOf]
  constructor
  · exact Interleaves.eq_spansOf
  · rintro rfl
    exact interleaves_spansOf 0 template

end Template

end LinkTemplate
