import LinkTemplate.Calendar.Pattern
import Mathlib.Algebra.Ring.Parity
import Mathlib.Data.List.Basic

/-!
# Patterns piece by piece

Only a run of one letter and a doubled quote are read as a whole, so that a pattern can be cut
wherever the characters on the two sides of the cut differ : its tokens are those of the front, and
those of the back read in the mode that the front ends in (`tokensFrom_append`). Each quote of the
front changes that mode, a doubled one twice. Behind a front with its quotes in pairs, then, the back
is written as if it stood alone (`format_append`).

`quote` makes a pattern of a text that is to be written as it stands. It does so for every text with
a character other than a quote, and for no other, since `n` quotes in quotes are `n + 1` doubled ones
(`tokens_quote`).
-/

namespace LinkTemplate

namespace Pattern

/-! ## Steps -/

theorem tokensFrom_quote {rest : Text} (h : rest.head? ≠ some '\'') (quoted : Bool) :
    tokensFrom quoted ('\'' :: rest) = tokensFrom (!quoted) rest := by
  cases rest with
  | nil => rfl
  | cons c rest =>
    have hc : c ≠ '\'' := fun hc => h (congrArg some hc)
    rw [tokensFrom]
    intro rest' heq
    exact hc (List.cons.inj heq).1

theorem tokensFrom_cons {c : Char} (hc : c ≠ '\'') (quoted : Bool) (rest : Text) :
    tokensFrom quoted (c :: rest) =
      if !quoted && c.isAlpha then pushLetter c (tokensFrom quoted rest)
      else .literal c :: tokensFrom quoted rest := by
  rw [tokensFrom] <;> simp [hc]

/-- A letter in front of tokens is the letter of the first of them. -/
theorem exists_head?_pushLetter (letter : Char) (ts : List Token) :
    ∃ count, (pushLetter letter ts).head? = some (.field letter count) := by
  unfold pushLetter
  split
  case h_1 l count rest =>
    by_cases hl : l = letter
    · exact ⟨count + 1, by simp [hl]⟩
    · exact ⟨1, by simp [hl]⟩
  case h_2 => exact ⟨1, rfl⟩

/-- A letter joins the first token only. -/
theorem pushLetter_append {letter : Char} {ts us : List Token}
    (h : ts = [] → ∀ count, us.head? ≠ some (.field letter count)) :
    pushLetter letter (ts ++ us) = pushLetter letter ts ++ us := by
  cases ts with
  | nil =>
    cases us with
    | nil => rfl
    | cons u us =>
      cases u with
      | literal c => rfl
      | field l count =>
        have hne : l ≠ letter := fun hl => h rfl count (by rw [hl]; rfl)
        simp [pushLetter, hne]
  | cons t ts =>
    cases t with
    | literal c => rfl
    | field l count =>
      by_cases hl : l = letter <;> simp [pushLetter, hl]

/-! ## Cuts -/

/-- A text has no tokens only if it is empty or a quote that nothing follows. -/
theorem eq_of_tokensFrom_eq_nil {quoted : Bool} {text : Text} (h : tokensFrom quoted text = []) :
    text = [] ∨ text = ['\''] := by
  fun_induction tokensFrom quoted text with
  | case1 => exact .inl rfl
  | case2 => cases h
  | case3 quoted rest hnot ih =>
    rcases ih h with rfl | rfl
    · exact .inr rfl
    · exact absurd rfl (hnot [])
  | case4 quoted c rest _ _ _ ih =>
    obtain ⟨count, hhead⟩ := exists_head?_pushLetter c (tokensFrom quoted rest)
    rw [h] at hhead
    cases hhead
  | case5 => cases h

/-- The first token is a field only of a text that starts with its letter outside quotes, or with
the quote that ends them. -/
theorem head?_of_head?_tokensFrom {quoted : Bool} {text : Text} {letter : Char} {count : Nat}
    (h : (tokensFrom quoted text).head? = some (.field letter count)) :
    text.head? = some (if quoted then '\'' else letter) := by
  fun_induction tokensFrom quoted text with
  | case1 => cases h
  | case2 => cases h
  | case3 quoted rest hnot ih =>
    cases quoted with
    | true => rfl
    | false =>
      obtain ⟨rest', rfl⟩ := List.head?_eq_some_iff.mp (ih h)
      exact absurd rfl (hnot rest')
  | case4 quoted c rest _ _ hletter _ =>
    obtain ⟨count', hhead⟩ := exists_head?_pushLetter c (tokensFrom quoted rest)
    obtain rfl : quoted = false := by simpa using (Bool.and_eq_true_iff.mp hletter).1
    rw [hhead] at h
    cases h
    rfl
  | case5 => cases h

/-- The tokens on both sides of a cut between two characters that differ. The back is read in the
mode that the front ends in, which each quote of the front changes. -/
theorem tokensFrom_append {front back : Text} (hcut : ∀ c ∈ front.getLast?, back.head? ≠ some c)
    (quoted : Bool) :
    tokensFrom quoted (front ++ back) =
      tokensFrom quoted front ++ tokensFrom (not^[front.count '\''] quoted) back := by
  fun_induction tokensFrom quoted front with
  | case1 => rfl
  | case2 quoted rest ih =>
    have hrest := ih fun c hc => hcut c (List.mem_getLast?_cons (List.mem_getLast?_cons hc))
    simp [tokensFrom, hrest]
  | case3 quoted rest hnot ih =>
    -- the next character is no quote either way: it is the next one of the front, or the cut is here
    have hhead : (rest ++ back).head? ≠ some '\'' := by
      cases rest with
      | nil => exact hcut '\'' rfl
      | cons c rest =>
        intro heq
        exact hnot rest (by rw [Option.some.inj heq])
    have hrest := ih fun c hc => hcut c (List.mem_getLast?_cons hc)
    rw [List.cons_append, tokensFrom_quote hhead, hrest, List.count_cons_self,
      Function.iterate_succ_apply]
  | case4 quoted c rest _ hc hletter ih =>
    have hrest := ih fun d hd => hcut d (List.mem_getLast?_cons hd)
    have hcount : (c :: rest).count '\'' = rest.count '\'' := List.count_cons_of_ne hc
    rw [List.cons_append, tokensFrom_cons hc, if_pos hletter, hrest, hcount]
    refine pushLetter_append fun hnil count hhead => ?_
    -- nothing is left of the front but a quote at most, and the back starts with its last character
    have hback := head?_of_head?_tokensFrom hhead
    obtain rfl : quoted = false := by simpa using (Bool.and_eq_true_iff.mp hletter).1
    rcases eq_of_tokensFrom_eq_nil hnil with rfl | rfl
    · exact hcut c rfl hback
    · exact hcut '\'' rfl hback
  | case5 quoted c rest _ hc hletter ih =>
    have hrest := ih fun d hd => hcut d (List.mem_getLast?_cons hd)
    have hcount : (c :: rest).count '\'' = rest.count '\'' := List.count_cons_of_ne hc
    rw [List.cons_append, tokensFrom_cons hc, if_neg hletter, hrest, hcount, List.cons_append]

/-- Behind quotes in pairs a pattern is read as one that stands alone. -/
theorem tokens_append {front back : Text} (heven : Even (front.count '\''))
    (hcut : ∀ c ∈ front.getLast?, back.head? ≠ some c) :
    tokens (front ++ back) = tokens front ++ tokens back := by
  rw [tokens, tokensFrom_append hcut, Bool.involutive_not.iterate_even heven]
  rfl

/-- A pattern is written piece by piece : cut behind quotes in pairs, and not within a run of one
letter or a doubled quote, its two parts are written one after the other. -/
theorem format_append {front back : Text} (heven : Even (front.count '\''))
    (hcut : ∀ c ∈ front.getLast?, back.head? ≠ some c) (x : Instant) :
    format x (front ++ back) = format x front ++ format x back := by
  rw [format, tokens_append heven hcut, List.flatMap_append, format, format]

/-- A doubled quote, quoted letters and a field of the same letter, in front of a quote that is not
closed. -/
theorem format_append_open_quote :
    let front := "yyyy''M 'M''M'".toList
    let back := "MMM'd M".toList
    let x : Instant := ⟨1706969109, 0, 3600, by decide, by decide, by decide, by decide, by decide⟩
    Even (front.count '\'') ∧ (∀ c ∈ front.getLast?, back.head? ≠ some c) ∧
      format x (front ++ back) = format x front ++ format x back ∧
      format x (front ++ back) = "2024'2 M'MFebd M".toList := by
  intro front back x
  have heven : Even (front.count '\'') := by decide
  have hcut : ∀ c ∈ front.getLast?, back.head? ≠ some c := by simp [front, back]
  exact ⟨heven, hcut, format_append heven hcut x, by decide +kernel⟩

/-! ## Quoting -/

/-- The text with each quote doubled. -/
def doubled (text : Text) : Text :=
  text.flatMap fun c => if c = '\'' then ['\'', '\''] else [c]

/-- The text in quotes, with its own quotes doubled. -/
def quote (text : Text) : Text :=
  '\'' :: doubled text ++ ['\'']

@[simp] theorem doubled_quote (text : Text) :
    doubled ('\'' :: text) = '\'' :: '\'' :: doubled text := rfl

@[simp] theorem doubled_cons {c : Char} (hc : c ≠ '\'') (text : Text) :
    doubled (c :: text) = c :: doubled text := by
  simp [doubled, hc]

theorem count_doubled (text : Text) : (doubled text).count '\'' = 2 * text.count '\'' := by
  induction text with
  | nil => rfl
  | cons c text ih =>
    by_cases hc : c = '\''
    · subst hc
      simp only [doubled_quote, List.count_cons_self, ih]
      omega
    · rw [doubled_cons hc, List.count_cons_of_ne hc, List.count_cons_of_ne hc, ih]

theorem even_count_quote (text : Text) : Even ((quote text).count '\'') := by
  refine ⟨text.count '\'' + 1, ?_⟩
  simp only [quote, List.cons_append, List.count_cons_self, List.count_append, count_doubled,
    List.count_nil]
  omega

theorem getLast?_quote (text : Text) : (quote text).getLast? = some '\'' :=
  List.getLast?_concat

/-- In quotes, a text with its quotes doubled is read as it stands. -/
theorem tokensFrom_doubled (text : Text) :
    tokensFrom true (doubled text ++ ['\'']) = text.map .literal := by
  induction text with
  | nil => rfl
  | cons c text ih =>
    by_cases hc : c = '\''
    · subst hc
      simp [tokensFrom, ih]
    · simp [tokensFrom_cons hc, hc, ih]

/-- The quote in front of a quoted text joins the doubled quotes that the text starts with, and the
last of all those quotes opens it. If nothing but quotes follows, none is left to open it. -/
theorem tokens_quote (text : Text) :
    tokens (quote text) =
      (if text.all (· == '\'') then '\'' :: text else text).map .literal := by
  induction text with
  | nil => rfl
  | cons c text ih =>
    by_cases hc : c = '\''
    · subst hc
      have hstep : tokens (quote ('\'' :: text)) = .literal '\'' :: tokens (quote text) := rfl
      rw [hstep, ih, List.all_cons, beq_self_eq_true, Bool.true_and]
      split <;> rfl
    · have hhead : (doubled (c :: text) ++ ['\'']).head? ≠ some '\'' := by simp [hc]
      rw [quote, tokens, List.cons_append, tokensFrom_quote hhead, Bool.not_false,
        tokensFrom_doubled, if_neg (by simp [hc])]

theorem flatMap_tokenText_literal (x : Instant) (text : Text) :
    (text.map .literal).flatMap (tokenText x) = text := by
  induction text with
  | nil => rfl
  | cons c text ih => rw [List.map_cons, List.flatMap_cons, ih]; rfl

/-- Between a front with its quotes in pairs that does not end in one, and a back that does not
start with one, a quoted text is written as it stands if it has a character other than a quote, and
only then. -/
theorem format_quote_iff {front back text : Text} (heven : Even (front.count '\''))
    (hfront : front.getLast? ≠ some '\'') (hback : back.head? ≠ some '\'') (x : Instant) :
    format x (front ++ quote text ++ back) = format x front ++ text ++ format x back ↔
      ∃ c ∈ text, c ≠ '\'' := by
  have hopening : ∀ c ∈ front.getLast?, (quote text ++ back).head? ≠ some c := by
    intro c hc heq
    exact hfront (hc.trans heq.symm)
  have hclosing : ∀ c ∈ (quote text).getLast?, back.head? ≠ some c := by
    intro c hc
    rw [getLast?_quote] at hc
    exact Option.some.inj hc ▸ hback
  rw [List.append_assoc, List.append_assoc, format, tokens_append heven hopening,
    tokens_append (even_count_quote text) hclosing, tokens_quote]
  simp only [List.flatMap_append, flatMap_tokenText_literal, format, List.append_cancel_left_eq,
    List.append_cancel_right_eq]
  split
  case isTrue hall => exact iff_of_false (List.cons_ne_self _ _) (by simpa using hall)
  case isFalse hnot => exact iff_of_true rfl (by simpa using hnot)

/-- Quotes at both ends of a text and within it, next to fields of letters that are in the text. Two
quotes by themselves become three. -/
theorem format_quote_iff_quotes :
    let front := "yyyy''h".toList
    let back := "mm'm".toList
    let text := "''h o'clock''m'".toList
    let x : Instant := ⟨1706969109, 0, 3600, by decide, by decide, by decide, by decide, by decide⟩
    Even (front.count '\'') ∧ front.getLast? ≠ some '\'' ∧ back.head? ≠ some '\'' ∧
      format x (front ++ quote text ++ back) = format x front ++ text ++ format x back ∧
      format x (front ++ quote text ++ back) = "2024'3''h o'clock''m'05m".toList ∧
      format x (front ++ quote ['\'', '\''] ++ back) ≠
        format x front ++ ['\'', '\''] ++ format x back := by
  intro front back text x
  have heven : Even (front.count '\'') := by decide
  have hfront : front.getLast? ≠ some '\'' := by decide
  have hback : back.head? ≠ some '\'' := by decide
  refine ⟨heven, hfront, hback, ?_, by decide +kernel, ?_⟩
  · exact (format_quote_iff heven hfront hback x).mpr ⟨'h', by decide, by decide⟩
  · rw [ne_eq, format_quote_iff heven hfront hback x]
    simp

end Pattern

end LinkTemplate
