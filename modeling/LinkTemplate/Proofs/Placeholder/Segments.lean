import LinkTemplate.Placeholder.Segment
import LinkTemplate.Proofs.Text.Trim
import Mathlib.Algebra.Ring.Parity
import Mathlib.Data.List.Basic

/-!
# How segments are read

The equations of `splitFrom`, one for each way a text can go on inside and outside quotes, and
what follows from them. `ReadsAs` composes what is read outside quotes; a text with its pipes
escaped is read as the text itself (`readsAs_escapePipes`), a quoted text as it stands
(`readsAs_quoted`).

A pipe starts a segment if the segments of the whole text are those in front of it and those
behind it. That is so exactly if the number of quotes in front of it is even and no backslash
stands directly before it (`startsSegment_iff`).
-/

namespace LinkTemplate.Segment

open Text

/-! ## Steps -/

@[simp] theorem splitFrom_nil (quoted : Bool) (current : Text) :
    splitFrom quoted current [] = [trim current] := by
  simp [splitFrom]

@[simp] theorem splitFrom_quote (quoted : Bool) (current rest : Text) :
    splitFrom quoted current ('"' :: rest) = splitFrom (!quoted) (current ++ ['"']) rest := by
  simp [splitFrom]

/-- Outside quotes a pipe ends the segment. -/
@[simp] theorem splitFrom_pipe (current rest : Text) :
    splitFrom false current ('|' :: rest) = trim current :: splitFrom false [] rest := by
  simp [splitFrom]

@[simp] theorem splitFrom_escape (current rest : Text) :
    splitFrom false current ('\\' :: '|' :: rest) = splitFrom false (current ++ ['|']) rest := by
  simp [splitFrom]

/-- Inside quotes every character but a quote stands for itself. -/
theorem splitFrom_quoted {c : Char} (h : c ≠ '"') (current rest : Text) :
    splitFrom true current (c :: rest) = splitFrom true (current ++ [c]) rest := by
  by_cases hpipe : c = '|'
  · subst hpipe
    simp [splitFrom]
  by_cases hslash : c = '\\'
  · subst hslash
    cases rest with
    | nil => simp [splitFrom]
    | cons d rest =>
      by_cases hd : d = '|'
      · subst hd
        simp [splitFrom]
      · simp [splitFrom, hd]
  · rw [splitFrom] <;> simp [h, hpipe, hslash]

/-- Outside quotes a character stands for itself unless it is a quote, a pipe or the backslash
of an escaped pipe. -/
theorem splitFrom_plain {c : Char} {rest : Text} (hquote : c ≠ '"') (hpipe : c ≠ '|')
    (hescape : c = '\\' → rest.head? ≠ some '|') (current : Text) :
    splitFrom false current (c :: rest) = splitFrom false (current ++ [c]) rest := by
  rw [splitFrom]
  · simpa using hquote
  · rintro rest' rfl rfl
    exact hescape rfl rfl
  · simpa using hpipe

/-! ## Reading outside quotes -/

/-- Outside quotes the characters `s` are read as `t` and end outside quotes, whatever is behind
them. They do not start with a pipe, which a backslash in front of them could escape, and
neither may what is behind them. -/
structure ReadsAs (s t : Text) : Prop where
  head_ne : s.head? ≠ some '|'
  splitFrom_append : ∀ current rest, rest.head? ≠ some '|' →
    splitFrom false current (s ++ rest) = splitFrom false (current ++ t) rest

/-- The text has no quote, pipe or backslash. -/
def IsPlain (s : Text) : Prop :=
  ∀ c ∈ s, c ≠ '"' ∧ c ≠ '|' ∧ c ≠ '\\'

instance (s : Text) : Decidable (IsPlain s) :=
  List.decidableBAll (fun c => c ≠ '"' ∧ c ≠ '|' ∧ c ≠ '\\') s

namespace ReadsAs

theorem nil : ReadsAs [] [] where
  head_ne := by simp
  splitFrom_append := by simp

theorem append {s t s' t' : Text} (h : ReadsAs s t) (h' : ReadsAs s' t') :
    ReadsAs (s ++ s') (t ++ t') where
  head_ne := by
    cases s with
    | nil => exact h'.head_ne
    | cons c s => exact h.head_ne
  splitFrom_append := by
    intro current rest hrest
    have hhead : (s' ++ rest).head? ≠ some '|' := by
      cases s' with
      | nil => exact hrest
      | cons c s' => exact h'.head_ne
    rw [List.append_assoc, h.splitFrom_append _ _ hhead, h'.splitFrom_append _ _ hrest,
      List.append_assoc]

/-- Characters other than quotes, pipes and backslashes are read as they stand. -/
theorem of_plain {s : Text} (h : IsPlain s) : ReadsAs s s where
  head_ne := fun hhead => (h '|' (List.mem_of_mem_head? hhead)).2.1 rfl
  splitFrom_append := by
    induction s with
    | nil => simp
    | cons c s ih =>
      intro current rest hrest
      obtain ⟨hquote, hpipe, hslash⟩ := h c List.mem_cons_self
      rw [List.cons_append, splitFrom_plain hquote hpipe (fun hc => absurd hc hslash),
        ih (fun d hd => h d (List.mem_cons_of_mem _ hd)) _ _ hrest]
      simp

/-- A quoted text is read as it stands, whatever is between the quotes. -/
theorem of_quoted {value : Text} (h : '"' ∉ value) :
    ReadsAs ('"' :: value ++ ['"']) ('"' :: value ++ ['"']) where
  head_ne := by simp
  splitFrom_append := by
    have hinside : ∀ current rest, splitFrom true current (value ++ rest) =
        splitFrom true (current ++ value) rest := by
      induction value with
      | nil => simp
      | cons c value ih =>
        intro current rest
        simp only [List.mem_cons, not_or] at h
        rw [List.cons_append, splitFrom_quoted (Ne.symm h.1), ih h.2]
        simp
    intro current rest _
    simp only [List.cons_append, List.append_assoc, List.nil_append, splitFrom_quote,
      Bool.not_false, Bool.not_true, hinside]

/-- A text with its pipes escaped is read as the text. -/
theorem of_escapePipes {t : Text} (h : '"' ∉ t) : ReadsAs (escapePipes t) t := by
  induction t with
  | nil => exact .nil
  | cons c t ih =>
    simp only [List.mem_cons, not_or] at h
    have hrest := ih h.2
    by_cases hpipe : c = '|'
    · subst hpipe
      refine ⟨by simp [escapePipes], fun current rest hhead => ?_⟩
      have hcons : escapePipes ('|' :: t) ++ rest = '\\' :: '|' :: (escapePipes t ++ rest) := by
        simp [escapePipes]
      rw [hcons, splitFrom_escape, hrest.splitFrom_append _ _ hhead]
      simp
    · refine ⟨by simp [escapePipes, hpipe], fun current rest hhead => ?_⟩
      have hcons : escapePipes (c :: t) ++ rest = c :: (escapePipes t ++ rest) := by
        simp [escapePipes, hpipe]
      have hnext : (escapePipes t ++ rest).head? ≠ some '|' := by
        cases hescaped : escapePipes t with
        | nil => exact hhead
        | cons d s => simpa [hescaped] using hrest.head_ne
      rw [hcons, splitFrom_plain (Ne.symm h.1) hpipe (fun _ => hnext),
        hrest.splitFrom_append _ _ hhead]
      simp

end ReadsAs

/-! ## Where segments start -/

/-- The pipe between two texts starts a segment : the segments of the whole are those of the
text in front of the pipe and those of the text behind it. -/
def StartsSegment (front back : Text) : Prop :=
  split (front ++ '|' :: back) = split front ++ split back

instance (front back : Text) : Decidable (StartsSegment front back) :=
  inferInstanceAs (Decidable (_ = _))

/-- Whether a text that is read inside or outside quotes ends inside quotes. -/
def quotedAfter (quoted : Bool) : Text → Bool
  | [] => quoted
  | c :: rest => quotedAfter (if c = '"' then !quoted else quoted) rest

theorem quotedAfter_iff_odd (t : Text) : quotedAfter false t = true ↔ Odd (t.count '"') := by
  have hgeneral : ∀ quoted, quotedAfter quoted t = true ↔
      (quoted = true ↔ Even (t.count '"')) := by
    induction t with
    | nil => simp [quotedAfter]
    | cons c t ih =>
      intro quoted
      rw [quotedAfter, ih]
      by_cases hc : c = '"'
      · cases quoted <;> simp [hc, Nat.even_add_one]
      · simp [hc]
  rw [hgeneral, ← Nat.not_even_iff_odd]
  simp

/-- The first segment starts with what is already read of it. -/
theorem exists_splitFrom_eq (quoted : Bool) (current t : Text) :
    ∃ more rest, splitFrom quoted current t = trim (current ++ more) :: rest := by
  fun_induction splitFrom quoted current t with
  | case1 quoted current => exact ⟨[], [], by simp⟩
  | case2 quoted current rest ih | case7 quoted current c rest _ _ _ ih
  | case4 quoted current rest _ ih =>
    obtain ⟨more, segments, h⟩ := ih
    exact ⟨_, segments, by rw [h, List.append_assoc]⟩
  | case3 current rest ih | case5 current rest ih =>
    obtain ⟨more, segments, h⟩ := ih
    exact ⟨_, segments, by rw [h, List.append_assoc]⟩
  | case6 quoted current rest => exact ⟨[], _, by rw [List.append_nil]⟩

/-- Outside quotes and not behind a backslash, a pipe ends what is in front of it. -/
theorem splitFrom_append_pipe {quoted : Bool} {front : Text} (current back : Text)
    (hquoted : quotedAfter quoted front = false) (hslash : front.getLast? ≠ some '\\') :
    splitFrom quoted current (front ++ '|' :: back) =
      splitFrom quoted current front ++ splitFrom false [] back := by
  fun_induction splitFrom quoted current front with
  | case1 quoted current =>
    obtain rfl : quoted = false := hquoted
    simp
  | case2 quoted current rest ih =>
    rw [List.cons_append, splitFrom_quote]
    exact ih hquoted fun h => hslash (List.mem_getLast?_cons h)
  | case3 current rest ih =>
    rw [List.cons_append, List.cons_append, splitFrom_quoted (by decide),
      splitFrom_quoted (by decide), List.append_assoc]
    exact ih hquoted fun h => hslash (List.mem_getLast?_cons (List.mem_getLast?_cons h))
  | case4 quoted current rest hq ih =>
    obtain rfl : quoted = false := by simpa using hq
    rw [List.cons_append, List.cons_append, splitFrom_escape]
    exact ih hquoted fun h => hslash (List.mem_getLast?_cons (List.mem_getLast?_cons h))
  | case5 current rest ih =>
    rw [List.cons_append, splitFrom_quoted (by decide)]
    exact ih hquoted fun h => hslash (List.mem_getLast?_cons h)
  | case6 quoted current rest hq ih =>
    obtain rfl : quoted = false := by simpa using hq
    rw [List.cons_append, splitFrom_pipe, List.cons_append]
    congr 1
    exact ih hquoted fun h => hslash (List.mem_getLast?_cons h)
  | case7 quoted current c rest hquote hescape hpipe ih =>
    have hrest := ih (by simpa [quotedAfter, show c ≠ '"' from hquote] using hquoted)
      fun h => hslash (List.mem_getLast?_cons h)
    cases quoted with
    | true => rw [List.cons_append, splitFrom_quoted hquote, hrest]
    | false =>
      -- a backslash is not the last character in front, so what is behind it is still the same
      have hnext : c = '\\' → (rest ++ '|' :: back).head? ≠ some '|' := by
        rintro rfl hhead
        cases rest with
        | nil => exact hslash rfl
        | cons d rest => exact hescape rest rfl (by simpa using hhead)
      rw [List.cons_append, splitFrom_plain hquote hpipe hnext, hrest]

theorem getLast?_of_cons {c x : Char} {t : Text} (h : (c :: t).getLast? = some x) (hne : c ≠ x) :
    t.getLast? = some x := by
  rw [List.getLast?_cons, Option.some.injEq] at h
  cases hlast : t.getLast? with
  | none => exact absurd (by simpa [hlast] using h) hne
  | some y => simpa [hlast] using h

/-- Inside quotes or behind a backslash, a pipe becomes part of the segment that it is in. -/
theorem exists_splitFrom_append_pipe {quoted : Bool} {front : Text} (current back : Text)
    (h : quotedAfter quoted front = true ∨ front.getLast? = some '\\') :
    ∃ before segment longer after, splitFrom quoted current front = before ++ [trim segment] ∧
      splitFrom quoted current (front ++ '|' :: back) = before ++ trim longer :: after ∧
      segment.count '|' < longer.count '|' := by
  fun_induction splitFrom quoted current front with
  | case1 quoted current =>
    obtain rfl : quoted = true := by simpa [quotedAfter] using h
    obtain ⟨more, after, hmore⟩ := exists_splitFrom_eq true (current ++ ['|']) back
    refine ⟨[], current, current ++ ['|'] ++ more, after, rfl, ?_, ?_⟩
    · rw [List.nil_append, splitFrom_quoted (by decide), hmore, List.nil_append]
    · simp only [List.count_append, List.count_singleton_self]
      omega
  | case2 quoted current rest ih =>
    rw [List.cons_append, splitFrom_quote]
    exact ih (h.imp_right fun h => getLast?_of_cons h (by decide))
  | case3 current rest ih =>
    rw [List.cons_append, List.cons_append, splitFrom_quoted (by decide),
      splitFrom_quoted (by decide), List.append_assoc]
    rw [List.getLast?_cons_cons] at h
    exact ih (h.imp_right fun h => getLast?_of_cons h (by decide))
  | case4 quoted current rest hq ih =>
    obtain rfl : quoted = false := by simpa using hq
    rw [List.cons_append, List.cons_append, splitFrom_escape]
    rw [List.getLast?_cons_cons] at h
    exact ih (h.imp_right fun h => getLast?_of_cons h (by decide))
  | case5 current rest ih =>
    rw [List.cons_append, splitFrom_quoted (by decide)]
    exact ih (h.imp_right fun h => getLast?_of_cons h (by decide))
  | case6 quoted current rest hq ih =>
    obtain rfl : quoted = false := by simpa using hq
    obtain ⟨before, segment, longer, after, hfront, hwhole, hcount⟩ :=
      ih (h.imp_right fun h => getLast?_of_cons h (by decide))
    refine ⟨trim current :: before, segment, longer, after, ?_, ?_, hcount⟩
    · rw [hfront, List.cons_append]
    · rw [List.cons_append, splitFrom_pipe, hwhole, List.cons_append]
  | case7 quoted current c rest hquote hescape hpipe ih =>
    have hquoted : quotedAfter quoted (c :: rest) = quotedAfter quoted rest := by
      rw [quotedAfter, if_neg hquote]
    rw [hquoted] at h
    cases quoted with
    | true =>
      rw [List.cons_append, splitFrom_quoted hquote]
      refine ih (h.elim Or.inl fun h => ?_)
      cases rest with
      | nil => exact Or.inl rfl
      | cons d rest => exact Or.inr (by rwa [List.getLast?_cons_cons] at h)
    | false =>
      cases rest with
      | nil =>
        obtain rfl : c = '\\' := by simpa [quotedAfter] using h
        obtain ⟨more, after, hmore⟩ := exists_splitFrom_eq false (current ++ ['|']) back
        refine ⟨[], current ++ ['\\'], current ++ ['|'] ++ more, after, by simp, ?_, ?_⟩
        · rw [List.cons_append, List.nil_append, splitFrom_escape, hmore, List.nil_append]
        · simp only [List.count_append, List.count_singleton_self]
          rw [show List.count '|' ['\\'] = 0 from rfl]
          omega
      | cons d rest =>
        have hnext : c = '\\' → (d :: rest ++ '|' :: back).head? ≠ some '|' := by
          rintro rfl hhead
          exact hescape rest rfl (by simpa using hhead)
        rw [List.cons_append, splitFrom_plain hquote hpipe hnext]
        exact ih (h.imp_right fun h => by rwa [List.getLast?_cons_cons] at h)

/-- A pipe starts a segment if the quotes in front of it are even in number and it is not behind
a backslash. -/
theorem startsSegment_iff (front back : Text) :
    StartsSegment front back ↔ Even (front.count '"') ∧ front.getLast? ≠ some '\\' := by
  rw [← Nat.not_odd_iff_even, ← quotedAfter_iff_odd, Bool.not_eq_true]
  constructor
  · intro h
    by_contra hnot
    rw [not_and_or, Bool.not_eq_false, not_not] at hnot
    obtain ⟨before, segment, longer, after, hfront, hwhole, hcount⟩ :=
      exists_splitFrom_append_pipe [] back hnot
    unfold StartsSegment split at h
    rw [hfront, hwhole, List.append_assoc, List.singleton_append] at h
    have htrim : trim longer = trim segment := (List.cons.inj (List.append_cancel_left h)).1
    have hpipe : isBlank '|' = false := by decide
    rw [← count_trim hpipe segment, ← count_trim hpipe longer, htrim] at hcount
    exact lt_irrefl _ hcount
  · rintro ⟨hquoted, hslash⟩
    exact splitFrom_append_pipe [] back hquoted hslash

end LinkTemplate.Segment
