import LinkTemplate.Proofs.Placeholder.Keys

/-!
# Where quoted values lie

The scan for quoted values goes on behind the pair that a text starts with (`Opens`), or behind
its first character. By induction along it (`opens_induction`), each quoted value is the text
between two quotes behind a key and its `=` (`exists_append_of_mem_quotedValues`), and a place is
inside quotes in the sense of quoted values if the quotes in front of it, without those that
belong to no value, are odd in number (`count_quote_mod_two`).
-/

namespace LinkTemplate

namespace Text

@[simp] theorem utf8Size_quote : '"'.utf8Size = 1 := rfl

@[simp] theorem utf8Size_equals : '='.utf8Size = 1 := rfl

/-- A text is split at a position in one way. -/
theorem append_inj_of_utf8Size {s s' t t' : Text} (h : s ++ t = s' ++ t')
    (hsize : utf8Size s = utf8Size s') : s = s' ∧ t = t' := by
  have hs := takeBytes_utf8Size_append s t
  have ht := dropBytes_utf8Size_append s t
  rw [h, hsize, takeBytes_utf8Size_append] at hs
  rw [h, hsize, dropBytes_utf8Size_append] at ht
  exact ⟨hs.symm, ht.symm⟩

/-- A character outside a part of a text stands in front of the part or behind it. -/
theorem append_eq_append_cons {front part rest s t : Text} {x : Char} (hx : x ∉ part)
    (h : front ++ (part ++ rest) = s ++ x :: t) :
    (∃ m, s = front ++ (part ++ m) ∧ rest = m ++ x :: t) ∨
      ∃ m, front = s ++ x :: m ∧ t = m ++ (part ++ rest) := by
  rcases List.append_eq_append_iff.mp h with ⟨m, rfl, hm⟩ | ⟨m, rfl, hm⟩
  · rcases List.append_eq_append_iff.mp hm with ⟨m', rfl, hm'⟩ | ⟨m', rfl, hm'⟩
    · exact Or.inl ⟨m', rfl, hm'⟩
    · cases m' with
      | nil => exact Or.inl ⟨[], by simp, by simpa using hm'.symm⟩
      | cons y m' =>
        obtain ⟨rfl, -⟩ := List.cons.inj hm'
        simp at hx
  · cases m with
    | nil =>
      cases part with
      | nil => exact Or.inl ⟨[], by simp, by simpa using hm.symm⟩
      | cons y part =>
        obtain ⟨rfl, -⟩ := List.cons.inj hm
        simp at hx
    | cons y m =>
      obtain ⟨rfl, ht⟩ := List.cons.inj hm
      exact Or.inr ⟨m, rfl, ht⟩

end Text

namespace Attribute

/-! ## One step -/

/-- Behind the character `before?`, the text starts with the `=` of a key and a quoted value. -/
structure Opens (before? : Option Char) (value after text : Text) : Prop where
  keyed : continuesWord before? = true
  quote_notMem : '"' ∉ value
  eq_append : text = '=' :: '"' :: (value ++ '"' :: after)

/-- A property of texts and what stands in front of them holds if it passes from the text behind
a pair at the start to the whole text, and from the rest of a text that starts with none. -/
theorem opens_induction {motive : Option Char → Text → Prop}
    (nil : ∀ before?, motive before? [])
    (pair : ∀ before? value after text, Opens before? value after text →
      motive (some '"') after → motive before? text)
    (char : ∀ before? c rest, (∀ value after, ¬Opens before? value after (c :: rest)) →
      motive (some c) rest → motive before? (c :: rest)) (before? : Option Char) (text : Text) :
    motive before? text := by
  induction hlength : text.length using Nat.strongRecOn generalizing before? text with
  | ind n ih =>
    subst hlength
    cases text with
    | nil => exact nil before?
    | cons c rest =>
      by_cases h : ∃ value after, Opens before? value after (c :: rest)
      · obtain ⟨value, after, h⟩ := h
        refine pair before? value after _ h (ih _ ?_ (some '"') after rfl)
        rw [h.eq_append]
        simp
        omega
      · refine char before? c rest (fun value after hopens => h ⟨value, after, hopens⟩) ?_
        exact ih _ (Nat.lt_succ_self rest.length) (some c) rest rfl

/-- The characters of a value that is already found are passed over. -/
theorem quotedValuesFrom_skip (position : Nat) (before? : Option Char) (s t : Text) :
    quotedValuesFrom position before? s.length (s ++ t) =
      quotedValuesFrom (position + Text.utf8Size s) (s.getLast?.or before?) 0 t := by
  induction s generalizing position before? with
  | nil => rfl
  | cons c s ih =>
    rw [List.length_cons, List.cons_append, quotedValuesFrom, ih, Text.utf8Size_cons,
      Nat.add_assoc, Text.getLast?_cons_or]

theorem quotedValuesFrom_of_opens {before? : Option Char} {value after text : Text}
    (h : Opens before? value after text) (position : Nat) :
    quotedValuesFrom position before? 0 text =
      ⟨position + 1, position + 1 + Text.utf8Size value + 2⟩ ::
        quotedValuesFrom (position + 1 + Text.utf8Size value + 2) (some '"') 0 after := by
  have hkeyed : (before?.map isKeyChar).getD false = true := h.keyed
  have hvalue : quotedValue? ('"' :: (value ++ '"' :: after)) = some value :=
    quotedValue?_append h.quote_notMem after
  have hsplit : '"' :: (value ++ '"' :: after) = ('"' :: value ++ ['"']) ++ after := by simp
  have hlength : ('"' :: value ++ ['"']).length = value.length + 2 := by simp
  have hsize : Text.utf8Size ('"' :: value ++ ['"']) = Text.utf8Size value + 2 := by
    rw [Text.utf8Size_append, Text.utf8Size_cons]
    simp
    omega
  have hlast : ('"' :: value ++ ['"']).getLast? = some '"' := List.getLast?_concat
  have hrest := quotedValuesFrom_skip (position + 1) (some '=') ('"' :: value ++ ['"']) after
  rw [hlength, hsize, hlast, ← hsplit] at hrest
  rw [h.eq_append, quotedValuesFrom, hkeyed]
  simp only [decide_true, Bool.and_true, if_true, hvalue, Text.utf8Size_equals, hrest,
    Option.some_or]
  rw [Nat.add_assoc (position + 1)]

theorem quotedValuesFrom_of_not_opens {before? : Option Char} {c : Char} {rest : Text}
    (h : ∀ value after, ¬Opens before? value after (c :: rest)) (position : Nat) :
    quotedValuesFrom position before? 0 (c :: rest) =
      quotedValuesFrom (position + c.utf8Size) (some c) 0 rest := by
  rw [quotedValuesFrom]
  split
  · next value hvalue =>
    split at hvalue
    · next hkeyed =>
      rw [Bool.and_eq_true, decide_eq_true_iff] at hkeyed
      obtain ⟨rfl, hkeyed⟩ := hkeyed
      obtain ⟨after, rfl, hquote⟩ := exists_append_of_quotedValue? hvalue
      exact absurd ⟨hkeyed, hquote, rfl⟩ (h value after)
    · cases hvalue
  · rfl

/-- A quoted value stands behind a key and its `=`, is the text between two neighbouring quotes,
and reaches from the first of them to behind the second. -/
theorem exists_append_of_mem_quotedValuesFrom {v : QuotedValue} {position : Nat}
    {before? : Option Char} {text : Text} (hv : v ∈ quotedValuesFrom position before? 0 text) :
    ∃ front value back, text = front ++ '=' :: '"' :: (value ++ '"' :: back) ∧ '"' ∉ value ∧
      continuesWord (front.getLast?.or before?) = true ∧
      v.start = position + Text.utf8Size front + 1 ∧
      v.stop = v.start + Text.utf8Size value + 2 := by
  induction before?, text using opens_induction generalizing position with
  | nil before? => simp [quotedValuesFrom] at hv
  | pair before? value after text h ih =>
    rw [quotedValuesFrom_of_opens h, List.mem_cons] at hv
    rcases hv with rfl | hv
    · exact ⟨[], value, after, h.eq_append, h.quote_notMem, h.keyed, rfl, rfl⟩
    · obtain ⟨front, value', back, rfl, hquote, hword, hstart, hstop⟩ := ih hv
      refine ⟨'=' :: '"' :: (value ++ '"' :: front), value', back, ?_, hquote, ?_, ?_, hstop⟩
      · simp [h.eq_append]
      · have hlast : ('=' :: '"' :: (value ++ '"' :: front)).getLast? =
            front.getLast?.or (some '"') := by
          simp [List.getLast?_cons]
        rw [hlast, Option.or_assoc]
        exact hword
      · rw [hstart]
        simp
        omega
  | char before? c rest h ih =>
    rw [quotedValuesFrom_of_not_opens h] at hv
    obtain ⟨front, value, back, rfl, hquote, hword, hstart, hstop⟩ := ih hv
    refine ⟨c :: front, value, back, rfl, hquote, by rwa [Text.getLast?_cons_or], ?_, hstop⟩
    rw [hstart, Text.utf8Size_cons]
    omega

/-! ## Quoted places -/

/-- Whether the character at a position of the content belongs to a quoted value. -/
def isQuoted (content : Text) (position : Nat) : Bool :=
  (quotedValues content).any (·.covers position)

/-- The number of quotes of a text at `position` that stand at a place that is not `covered`. -/
def looseQuotesFrom (covered : Nat → Bool) (position : Nat) : Text → Nat
  | [] => 0
  | c :: rest =>
    (if c = '"' && !covered position then 1 else 0) +
      looseQuotesFrom covered (position + c.utf8Size) rest

/-- The number of quotes in the front part of the content that belong to no quoted value. -/
def looseQuotes (content front : Text) : Nat :=
  looseQuotesFrom (isQuoted content) 0 front

theorem looseQuotesFrom_append (covered : Nat → Bool) (position : Nat) (s t : Text) :
    looseQuotesFrom covered position (s ++ t) = looseQuotesFrom covered position s +
      looseQuotesFrom covered (position + Text.utf8Size s) t := by
  induction s generalizing position with
  | nil => simp [looseQuotesFrom]
  | cons c s ih => simp [looseQuotesFrom, ih, Nat.add_assoc]

theorem looseQuotesFrom_of_covered {covered : Nat → Bool} {position : Nat} {s : Text}
    (h : ∀ n, position ≤ n → n < position + Text.utf8Size s → covered n = true) :
    looseQuotesFrom covered position s = 0 := by
  induction s generalizing position with
  | nil => rfl
  | cons c s ih =>
    rw [Text.utf8Size_cons] at h
    have hsize := Char.utf8Size_pos c
    have hrest : looseQuotesFrom covered (position + c.utf8Size) s = 0 :=
      ih fun n hn hlt => h n (by omega) (by omega)
    simp [looseQuotesFrom, h position (Nat.le_refl _) (by omega), hrest]

/-- From `position` on, `covered` tells which places of a text are in its quoted values. -/
def Marks (covered : Nat → Bool) (position : Nat) (before? : Option Char) (text : Text) : Prop :=
  ∀ n, position ≤ n → covered n = (quotedValuesFrom position before? 0 text).any (·.covers n)

/-- No quoted value reaches a place in front of where the search for them starts. -/
theorem any_covers_eq_false {position n : Nat} (hn : n ≤ position) (before? : Option Char)
    (text : Text) : (quotedValuesFrom position before? 0 text).any (·.covers n) = false := by
  rw [List.any_eq_false]
  intro v hv
  obtain ⟨front, -, -, -, -, -, hstart, -⟩ := exists_append_of_mem_quotedValuesFrom hv
  have hlt : ¬v.start ≤ n := by omega
  simp [QuotedValue.covers, hlt]

namespace Marks

variable {covered : Nat → Bool} {position : Nat} {before? : Option Char} {text : Text}

theorem here (h : Marks covered position before? text) : covered position = false := by
  rw [h position (Nat.le_refl _), any_covers_eq_false (Nat.le_refl _)]

theorem behind_char {c : Char} {rest : Text} (h : Marks covered position before? (c :: rest))
    (hopens : ∀ value after, ¬Opens before? value after (c :: rest)) :
    Marks covered (position + c.utf8Size) (some c) rest := by
  intro n hn
  rw [h n (by omega), quotedValuesFrom_of_not_opens hopens]

variable {value after : Text}

theorem inside_quotes (h : Marks covered position before? text)
    (hopens : Opens before? value after text) {n : Nat} (hn : position + 1 ≤ n)
    (hlt : n < position + 1 + Text.utf8Size value + 2) : covered n = true := by
  rw [h n (by omega), quotedValuesFrom_of_opens hopens]
  simp [QuotedValue.covers, hn, hlt]

theorem behind_quotes (h : Marks covered position before? text)
    (hopens : Opens before? value after text) :
    Marks covered (position + 1 + Text.utf8Size value + 2) (some '"') after := by
  intro n hn
  have hlt : ¬n < position + 1 + Text.utf8Size value + 2 := by omega
  rw [h n (by omega), quotedValuesFrom_of_opens hopens]
  simp [QuotedValue.covers, hlt]

end Marks

/-- A place is quoted if the quotes in front of it, without the loose ones, are odd in number. -/
theorem count_quote_mod_two_from {covered : Nat → Bool} {position : Nat} {before? : Option Char}
    {text s t : Text} {x : Char} (hmarks : Marks covered position before? text)
    (htext : text = s ++ x :: t) (hx : x ≠ '"') :
    s.count '"' % 2 = (looseQuotesFrom covered position s +
      if covered (position + Text.utf8Size s) then 1 else 0) % 2 := by
  induction before?, text using opens_induction generalizing position s with
  | nil before? => simp at htext
  | pair before? value after text h ih =>
    have hnone : value.count '"' = 0 := List.count_eq_zero_of_not_mem h.quote_notMem
    -- no quote of the pair is loose
    have hloose : ∀ part, Text.utf8Size part ≤ Text.utf8Size value + 2 →
        looseQuotesFrom covered position ('=' :: part) = 0 := by
      intro part hpart
      have hcovered : looseQuotesFrom covered (position + 1) part = 0 :=
        looseQuotesFrom_of_covered fun n hn hlt => hmarks.inside_quotes h hn (by omega)
      simp [looseQuotesFrom, hcovered]
    rw [h.eq_append] at htext
    -- the place is the `=` of the pair, or inside its quotes, or behind them
    match s with
    | [] => simp [looseQuotesFrom, hmarks.here]
    | [d] =>
      simp only [List.cons_append, List.nil_append, List.cons.injEq] at htext
      exact absurd htext.2.1.symm hx
    | d :: e :: s =>
      simp only [List.cons_append, List.cons.injEq] at htext
      obtain ⟨rfl, rfl, htext⟩ := htext
      have hpart : x ∉ ['"'] := by simpa using hx
      rcases Text.append_eq_append_cons hpart htext with ⟨m, rfl, rfl⟩ | ⟨m, rfl, -⟩
      · have hpair : '=' :: '"' :: (value ++ (['"'] ++ m)) =
            '=' :: '"' :: (value ++ ['"']) ++ m := by simp
        have hsize : Text.utf8Size ('"' :: (value ++ ['"'])) = Text.utf8Size value + 2 := by
          simp
          omega
        have hcount : ('=' :: '"' :: (value ++ ['"'])).count '"' = 2 := by simp [hnone]
        have hstop : position + Text.utf8Size ('=' :: '"' :: (value ++ ['"'])) =
            position + 1 + Text.utf8Size value + 2 := by
          rw [Text.utf8Size_cons, Text.utf8Size_equals, hsize]
          omega
        have hs := ih (hmarks.behind_quotes h) rfl
        rw [hpair, looseQuotesFrom_append, hloose _ (Nat.le_of_eq hsize), Text.utf8Size_append,
          List.count_append, hcount, ← Nat.add_assoc, hstop]
        omega
      · rw [List.count_append] at hnone
        have hcount : ('=' :: '"' :: s).count '"' = 1 := by
          simp
          omega
        have hplace : covered (position + Text.utf8Size ('=' :: '"' :: s)) = true := by
          refine hmarks.inside_quotes h ?_ ?_
          · simp only [Text.utf8Size_cons, Text.utf8Size_equals]
            omega
          · simp only [Text.utf8Size_cons, Text.utf8Size_append, Text.utf8Size_equals,
              Text.utf8Size_quote]
            omega
        rw [hcount, hplace, hloose]
        · rfl
        · simp only [Text.utf8Size_cons, Text.utf8Size_append, Text.utf8Size_quote]
          omega
  | char before? c rest h ih =>
    cases s with
    | nil => simp [looseQuotesFrom, hmarks.here]
    | cons d s =>
      obtain ⟨rfl, rfl⟩ := List.cons.inj htext
      have hs := ih (hmarks.behind_char h) rfl
      rw [looseQuotesFrom, hmarks.here, Text.utf8Size_cons, List.count_cons, ← Nat.add_assoc]
      by_cases hc : c = '"'
      · simp only [hc, beq_self_eq_true, decide_true, Bool.not_false, Bool.and_self,
          if_true] at hs ⊢
        omega
      · simpa [hc] using hs

/-- A place that is no quote is quoted if the quotes in front of it, without the loose ones, are
odd in number. -/
theorem count_quote_mod_two (front : Text) {x : Char} (hx : x ≠ '"') (back : Text) :
    front.count '"' % 2 = (looseQuotes (front ++ x :: back) front +
      if isQuoted (front ++ x :: back) (Text.utf8Size front) then 1 else 0) % 2 := by
  have hmarks : Marks (isQuoted (front ++ x :: back)) 0 none (front ++ x :: back) :=
    fun _ _ => rfl
  have h := count_quote_mod_two_from hmarks rfl hx
  rwa [Nat.zero_add] at h

theorem hasStrayQuoteFrom_eq_false_iff (values : List QuotedValue) (position : Nat)
    (before? : Option Char) (text : Text) :
    hasStrayQuoteFrom values position before? text = false ↔
      ∀ front back, text = front ++ '"' :: back →
        values.any (·.covers (position + Text.utf8Size front)) = true ∨
          front.getLast?.or before? = some '\\' := by
  induction text generalizing position before? with
  | nil => simp [hasStrayQuoteFrom]
  | cons c rest ih =>
    rw [hasStrayQuoteFrom, Bool.or_eq_false_iff, ih]
    have hstep : ∀ front, position + c.utf8Size + Text.utf8Size front =
        position + Text.utf8Size (c :: front) := by
      intro front
      rw [Text.utf8Size_cons, Nat.add_assoc]
    constructor
    · rintro ⟨hhere, hrest⟩ front back htext
      cases front with
      | nil =>
        obtain ⟨rfl, -⟩ := List.cons.inj htext
        cases hcovers : values.any (·.covers position) with
        | true => exact Or.inl hcovers
        | false => exact Or.inr (by simpa [hcovers] using hhere)
      | cons d front =>
        obtain ⟨rfl, hrest'⟩ := List.cons.inj htext
        rw [Text.getLast?_cons_or, ← hstep]
        exact hrest front back hrest'
    · intro h
      refine ⟨?_, fun front back htext => ?_⟩
      · by_cases hc : c = '"'
        · subst hc
          rcases h [] rest rfl with hcovers | hslash
          · simp only [Text.utf8Size_nil, Nat.add_zero] at hcovers
            simp [hcovers]
          · rw [List.getLast?_nil, Option.none_or] at hslash
            simp [hslash]
        · simp [hc]
      · rw [hstep, ← Text.getLast?_cons_or]
        exact h (c :: front) back (by rw [htext, List.cons_append])

/-- A text has no stray quote if each of its quotes belongs to a quoted value or stands behind a
backslash. -/
theorem hasStrayQuote_eq_false_iff (content : Text) :
    hasStrayQuote content = false ↔ ∀ front back, content = front ++ '"' :: back →
      isQuoted content (Text.utf8Size front) = true ∨ front.getLast? = some '\\' := by
  rw [hasStrayQuote, hasStrayQuoteFrom_eq_false_iff]
  simp [isQuoted]

end Attribute

end LinkTemplate
