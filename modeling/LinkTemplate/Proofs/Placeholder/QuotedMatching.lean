import LinkTemplate.Proofs.Placeholder.QuotedText

/-!
# Quoted values as a matching

A quoted value stands behind a key character and `=`, and reaches from a quote to the next one.
`LeftmostFrom` goes through the places of a text where all this can be matched : it takes the first
of them, goes on behind the closing quote, and stops where none is left. There is one such list
(`LeftmostFrom.unique`), and the scan for quoted values finds it
(`leftmostFrom_quotedValuesFrom`). The scan looks behind the place where it goes on, but what stands
there is a quote, no key.
-/

namespace LinkTemplate.Attribute

/-! ## Matches -/

/-- At the place stands a key character of the content, with `=` and the quoted value behind it. -/
def QuotedValue.MatchedAt (v : QuotedValue) (content : Text) (place : Nat) : Prop :=
  ∃ front c value back, isKeyChar c = true ∧ v.Holds content (front ++ [c, '=']) value back ∧
    place = Text.utf8Size front

namespace QuotedValue.MatchedAt

variable {v w : QuotedValue} {content : Text} {m n : Nat}

theorem place_lt_start (h : v.MatchedAt content m) : m < v.start := by
  obtain ⟨front, c, value, back, -, hholds, rfl⟩ := h
  rw [hholds.start_eq, Text.utf8Size_append]
  simp

theorem start_lt_stop (h : v.MatchedAt content m) : v.start < v.stop := by
  obtain ⟨front, c, value, back, -, hholds, -⟩ := h
  rw [hholds.start_eq, hholds.stop_eq]
  omega

theorem exists_opening (h : v.MatchedAt content m) :
    ∃ s t, content = s ++ '"' :: t ∧ Text.utf8Size s = v.start := by
  obtain ⟨front, c, value, back, -, hholds, -⟩ := h
  exact ⟨_, _, hholds.eq_append, hholds.start_eq.symm⟩

/-- A quote stands in front of the place of a match or not in front of its opening quote. -/
theorem quote_cases (h : v.MatchedAt content m) {s t : Text} (hquote : content = s ++ '"' :: t) :
    Text.utf8Size s < m ∨ v.start ≤ Text.utf8Size s := by
  obtain ⟨front, c, value, back, hc, hholds, rfl⟩ := h
  have hpart : '"' ∉ [c, '='] := by
    simp [(isKeyChar_ne hc (by decide) : c ≠ '"').symm]
  have hcompare : front ++ ([c, '='] ++ '"' :: (value ++ '"' :: back)) = s ++ '"' :: t := by
    rw [← hquote, hholds.eq_append, List.append_assoc]
  rcases Text.append_eq_append_cons hpart hcompare with ⟨r, rfl, -⟩ | ⟨r, rfl, -⟩
  · right
    rw [hholds.start_eq]
    simp only [Text.utf8Size_append]
    omega
  · left
    simp only [Text.utf8Size_append, Text.utf8Size_cons, Text.utf8Size_quote]
    omega

theorem place_eq_of_start_eq (hv : v.MatchedAt content m) (hw : w.MatchedAt content n)
    (h : v.start = w.start) : m = n := by
  obtain ⟨front, c, value, back, -, hholds, rfl⟩ := hv
  obtain ⟨front', c', value', back', -, hholds', rfl⟩ := hw
  have hfront := (Text.append_inj_of_utf8Size (hholds.eq_append.symm.trans hholds'.eq_append)
    (hholds.start_eq.symm.trans (h.trans hholds'.start_eq))).1
  rw [(List.append_inj' hfront rfl).1]

/-- The places of matches are in the order of their quotes. -/
theorem place_le (hv : v.MatchedAt content m) (hw : w.MatchedAt content n)
    (h : v.start ≤ w.start) : m ≤ n := by
  obtain ⟨s, t, hquote, hs⟩ := hv.exists_opening
  rcases hw.quote_cases hquote with hlt | hle
  · have := hv.place_lt_start
    omega
  · exact Nat.le_of_eq (hv.place_eq_of_start_eq hw (by omega))

theorem start_lt_of_place_lt (hv : v.MatchedAt content m) (hw : w.MatchedAt content n)
    (h : m < n) : v.start < w.start := by
  refine Nat.lt_of_not_le fun hle => ?_
  have := hw.place_le hv hle
  omega

/-- There is one match at a place. -/
theorem unique (hv : v.MatchedAt content m) (hw : w.MatchedAt content m) : v = w := by
  obtain ⟨front, c, value, back, -, hholds, rfl⟩ := hv
  obtain ⟨front', c', value', back', -, hholds', hplace⟩ := hw
  have happend : front ++ [c, '='] ++ '"' :: (value ++ '"' :: back) =
      front' ++ [c', '='] ++ '"' :: (value' ++ '"' :: back') :=
    hholds.eq_append.symm.trans hholds'.eq_append
  rw [List.append_assoc, List.append_assoc] at happend
  obtain ⟨rfl, hrest⟩ := Text.append_inj_of_utf8Size happend hplace
  simp only [List.cons_append, List.nil_append, List.cons.injEq, true_and] at hrest
  obtain ⟨rfl, hrest⟩ := hrest
  have hcut := congrArg (Text.cut? '"') hrest
  rw [Text.cut?_append hholds.quote_notMem, Text.cut?_append hholds'.quote_notMem,
    Option.some.injEq, Prod.mk.injEq] at hcut
  obtain ⟨rfl, -⟩ := hcut
  rw [QuotedValue.mk.injEq, hholds.start_eq, hholds'.start_eq, hholds.stop_eq, hholds'.stop_eq]
  exact ⟨rfl, rfl⟩

end QuotedValue.MatchedAt

/-! ## The leftmost matching -/

/-- The quoted values of the matches from place `n` on : the first, those behind its closing quote,
and no more if there is none. -/
inductive LeftmostFrom (content : Text) : Nat → List QuotedValue → Prop
  | nil {n : Nat} (hnone : ∀ w m, n ≤ m → ¬QuotedValue.MatchedAt w content m) :
    LeftmostFrom content n []
  | cons {n m : Nat} {v : QuotedValue} {vs : List QuotedValue} (hle : n ≤ m)
      (hv : v.MatchedAt content m)
      (hfirst : ∀ w m', n ≤ m' → QuotedValue.MatchedAt w content m' → m ≤ m')
      (hrest : LeftmostFrom content v.stop vs) : LeftmostFrom content n (v :: vs)

namespace LeftmostFrom

variable {content : Text} {n : Nat} {vs ws : List QuotedValue}

theorem unique (hv : LeftmostFrom content n vs) (hw : LeftmostFrom content n ws) : vs = ws := by
  induction hv generalizing ws with
  | nil hnone =>
    cases hw with
    | nil => rfl
    | cons hle hw => exact absurd hw (hnone _ _ hle)
  | cons hle hv hfirst _ ih =>
    cases hw with
    | nil hnone => exact absurd hv (hnone _ _ hle)
    | cons hle' hw hfirst' hrest' =>
      obtain rfl := Nat.le_antisymm (hfirst _ _ hle' hw) (hfirst' _ _ hle hv)
      obtain rfl := hv.unique hw
      rw [ih hrest']

theorem exists_matchedAt (h : LeftmostFrom content n vs) :
    ∀ v ∈ vs, ∃ m, n ≤ m ∧ v.MatchedAt content m := by
  induction h with
  | nil => simp
  | @cons n m v vs hle hv _ _ ih =>
    refine List.forall_mem_cons.mpr ⟨⟨m, hle, hv⟩, fun w hw => ?_⟩
    obtain ⟨m', hle', hw'⟩ := ih w hw
    have := hv.place_lt_start
    have := hv.start_lt_stop
    exact ⟨m', by omega, hw'⟩

theorem pairwise (h : LeftmostFrom content n vs) : vs.Pairwise fun v w => v.stop < w.start := by
  induction h with
  | nil => exact .nil
  | cons _ _ _ hrest ih =>
    refine List.pairwise_cons.mpr ⟨fun w hw => ?_, ih⟩
    obtain ⟨m', hle', hw'⟩ := hrest.exists_matchedAt w hw
    exact Nat.lt_of_le_of_lt hle' hw'.place_lt_start

/-- A match that is left out begins inside one in front of it that is not. -/
theorem mem_or_begins_inside (h : LeftmostFrom content n vs) {w : QuotedValue} {m : Nat}
    (hw : w.MatchedAt content m) (hle : n ≤ m) :
    w ∈ vs ∨ ∃ v ∈ vs, v.start < w.start ∧ m < v.stop := by
  induction h with
  | nil hnone => exact absurd hw (hnone _ _ hle)
  | @cons n m' v vs _ hv hfirst _ ih =>
    rcases Nat.lt_or_eq_of_le (hfirst _ _ hle hw) with hlt | rfl
    · by_cases hinside : m < v.stop
      · exact Or.inr ⟨v, List.mem_cons_self, hv.start_lt_of_place_lt hw hlt, hinside⟩
      · rcases ih (Nat.le_of_not_lt hinside) with hmem | ⟨v', hv', hbegins⟩
        · exact Or.inl (List.mem_cons_of_mem _ hmem)
        · exact Or.inr ⟨v', List.mem_cons_of_mem _ hv', hbegins⟩
    · exact Or.inl (hw.unique hv ▸ List.mem_cons_self)

end LeftmostFrom

/-! ## The scan -/

/-- The opening quotes of the matches from place `n` on are those behind `position`. -/
def ResumesAt (content : Text) (n position : Nat) : Prop :=
  ∀ w m, QuotedValue.MatchedAt w content m → (n ≤ m ↔ position < w.start)

theorem resumesAt_zero (content : Text) : ResumesAt content 0 0 := by
  intro w m hw
  have := hw.place_lt_start
  omega

/-- Behind a quote the matches are those whose place is behind it. -/
theorem resumesAt_quote {content s t : Text} (hquote : content = s ++ '"' :: t) :
    ResumesAt content (Text.utf8Size (s ++ ['"'])) (Text.utf8Size (s ++ ['"'])) := by
  intro w m hw
  have hlt := hw.place_lt_start
  have hsize : Text.utf8Size (s ++ ['"']) = Text.utf8Size s + 1 := Text.utf8Size_append s ['"']
  rcases hw.quote_cases hquote with hbefore | hbehind <;> omega

/-- The position behind a pair that stands behind a text. -/
theorem utf8Size_append_pair (front value : Text) :
    Text.utf8Size (front ++ '=' :: '"' :: value ++ ['"']) =
      Text.utf8Size front + 1 + Text.utf8Size value + 2 := by
  simp only [Text.utf8Size_append, Text.utf8Size_cons, Text.utf8Size_nil, Text.utf8Size_equals,
    Text.utf8Size_quote]
  omega

theorem exists_concat_of_continuesWord {front : Text} (h : continuesWord front.getLast? = true) :
    ∃ before c, front = before ++ [c] ∧ isKeyChar c = true := by
  cases hlast : front.getLast? with
  | none =>
    rw [hlast] at h
    exact absurd h Bool.false_ne_true
  | some c =>
    obtain ⟨before, rfl⟩ := List.getLast?_eq_some_iff.mp hlast
    rw [hlast] at h
    exact ⟨before, c, rfl, h⟩

/-- The pair that a text starts with is a match whose place is the last character in front. -/
theorem Opens.exists_matchedAt {content front value after text : Text}
    (h : Opens front.getLast? value after text) (hcontent : content = front ++ text) :
    ∃ place, QuotedValue.MatchedAt ⟨Text.utf8Size front + 1,
      Text.utf8Size front + 1 + Text.utf8Size value + 2⟩ content place := by
  obtain ⟨before, c, rfl, hc⟩ := exists_concat_of_continuesWord h.keyed
  have hopening : Text.utf8Size (before ++ [c]) + 1 = Text.utf8Size (before ++ [c, '=']) := by
    simp [Nat.add_assoc]
  rw [hopening]
  exact ⟨_, before, c, value, after, hc,
    ⟨by simp [hcontent, h.eq_append], h.quote_notMem, rfl, rfl⟩, rfl⟩

/-- A match behind a text is the pair that the rest starts with, or behind the next character. -/
theorem start_lt_of_not_opens {content front rest : Text} {c : Char}
    (hcontent : content = front ++ c :: rest)
    (hopens : ∀ value after, ¬Opens front.getLast? value after (c :: rest)) {w : QuotedValue}
    {m : Nat} (hw : w.MatchedAt content m) (hlt : Text.utf8Size front < w.start) :
    Text.utf8Size front + c.utf8Size < w.start := by
  obtain ⟨before, k, value, back, hk, hholds, -⟩ := hw
  have hsplit : front ++ ([] ++ c :: rest) =
      before ++ [k] ++ '=' :: '"' :: (value ++ '"' :: back) := by
    rw [List.nil_append, ← hcontent, hholds.eq_append]
    simp
  have hstart : w.start = Text.utf8Size (before ++ [k]) + 1 := by
    rw [hholds.start_eq]
    simp only [Text.utf8Size_append, Text.utf8Size_cons, Text.utf8Size_nil, Text.utf8Size_equals]
    omega
  rcases Text.append_eq_append_cons List.not_mem_nil hsplit with ⟨r, hr, hrest⟩ | ⟨r, rfl, -⟩
  · rw [List.nil_append] at hr
    cases r with
    | nil =>
      refine absurd ⟨?_, hholds.quote_notMem, hrest⟩ (hopens value back)
      rw [← List.append_nil front, ← hr, List.getLast?_concat]
      exact hk
    | cons d r =>
      obtain ⟨rfl, -⟩ := List.cons.inj hrest
      rw [hstart, hr]
      simp only [Text.utf8Size_append, Text.utf8Size_cons]
      omega
  · rw [hstart, Text.utf8Size_append] at hlt
    simp at hlt

/-- The scan of a text finds the leftmost matching from where it is on. -/
theorem leftmostFrom_quotedValuesFrom {content text : Text} (front : Text) {n : Nat}
    (hcontent : content = front ++ text) (hresumes : ResumesAt content n (Text.utf8Size front)) :
    LeftmostFrom content n (quotedValuesFrom (Text.utf8Size front) front.getLast? 0 text) := by
  generalize hbefore : front.getLast? = before?
  induction before?, text using opens_induction generalizing front n with
  | nil before? =>
    rw [quotedValuesFrom]
    refine .nil fun w m hle hw => ?_
    obtain ⟨s, t, hquote, hs⟩ := hw.exists_opening
    have hstart := (hresumes w m hw).mp hle
    have hsize := congrArg Text.utf8Size (hcontent.symm.trans hquote)
    simp only [List.append_nil, Text.utf8Size_append, Text.utf8Size_cons] at hsize
    omega
  | pair before? value after text h ih =>
    rw [← hbefore] at h ⊢
    obtain ⟨place, hv⟩ := h.exists_matchedAt hcontent
    have hclosing : content = front ++ '=' :: '"' :: value ++ '"' :: after := by
      simp [hcontent, h.eq_append]
    rw [quotedValuesFrom_of_opens h]
    refine .cons ((hresumes _ _ hv).mpr (Nat.lt_succ_self _)) hv
      (fun w m hle hw => hv.place_le hw ((hresumes w m hw).mp hle)) ?_
    have hrest := ih (front ++ '=' :: '"' :: value ++ ['"']) (by simp [hclosing])
      (resumesAt_quote hclosing) List.getLast?_concat
    rwa [utf8Size_append_pair] at hrest
  | char before? c rest h ih =>
    rw [← hbefore] at h ⊢
    rw [quotedValuesFrom_of_not_opens h]
    have hlast : (front ++ [c]).getLast? = some c := List.getLast?_concat
    have hsize : Text.utf8Size (front ++ [c]) = Text.utf8Size front + c.utf8Size := by simp
    have hrest := ih (front ++ [c]) (n := n) (by simp [hcontent]) ?_ hlast
    · rwa [hsize] at hrest
    · intro w m hw
      rw [hresumes w m hw, hsize]
      exact ⟨start_lt_of_not_opens hcontent h hw, fun hlt => by omega⟩

end LinkTemplate.Attribute
