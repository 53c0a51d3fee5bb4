import LinkTemplate.Proofs.Placeholder.QuotedValues

/-!
# Quoted text and other keys

`extract` searches the whole content for a key, also inside the quotes of other attributes. If no
quoted text mentions the key, each `key=` stands outside the quotes
(`standsOutside_of_not_mentions`) and a quote behind it opens a quoted value
(`exists_quotedValue?_eq`). The text in the quotes of another key then does not matter
(`extract_quoted_congr`), as long as a blank ends the unquoted values in front of that key. A
quoted text that mentions the key is read like the content around it.
-/

namespace LinkTemplate

namespace Text

/-- Ranges that do not overlap hold different characters. -/
theorem within_eq_false_of_disjoint {ranges others : List (Nat × Nat)} {c : Char}
    (hdisjoint : ∀ r ∈ ranges, ∀ s ∈ others, r.2 < s.1 ∨ s.2 < r.1)
    (h : within ranges c = true) : within others c = false := by
  obtain ⟨r, hr, hc⟩ := List.any_eq_true.mp h
  refine List.any_eq_false.mpr fun s hs hc' => ?_
  rw [Bool.and_eq_true, decide_eq_true_iff, decide_eq_true_iff] at hc hc'
  rcases hdisjoint r hr s hs with hlt | hlt
  · omega
  · omega

theorem isAlphanumeric_of_isBlank {c : Char} (h : isBlank c = true) : isAlphanumeric c = false := by
  have hascii : ∀ n < 0x80, isBlank (Char.ofNat n) = true → (Char.ofNat n).isAlphanum = false := by
    decide +kernel
  rw [isAlphanumeric]
  split
  · next hlt =>
    have hc := hascii c.toNat hlt
    rw [Char.ofNat_toNat] at hc
    exact hc h
  · exact within_eq_false_of_disjoint (by decide +kernel) h

/-- What is in front of the first `sep` does not depend on what is behind it. -/
theorem map_cut?_append (sep : Char) (s t : Text) :
    (cut? sep (s ++ sep :: t)).map Prod.fst = some (s.takeWhile (· ≠ sep)) := by
  induction s with
  | nil => simp [cut?]
  | cons c s ih =>
    by_cases hc : c = sep
    · simp [cut?, hc]
    · simpa [cut?, hc, Function.comp_def] using congrArg (Option.map (c :: ·)) ih

end Text

namespace Attribute

/-- No blank character is part of a key. -/
theorem not_isKeyChar_of_isBlank {c : Char} (h : Text.isBlank c = true) : isKeyChar c = false := by
  have hunderscore : c ≠ '_' := by
    rintro rfl
    exact absurd h (by decide)
  have hhyphen : c ≠ '-' := by
    rintro rfl
    exact absurd h (by decide)
  simp [isKeyChar, Text.isAlphanumeric_of_isBlank h, hunderscore, hhyphen]

/-! ## The text between the quotes -/

/-- The text between the quotes of a quoted value. -/
def QuotedValue.inside (content : Text) (v : QuotedValue) : Text :=
  Text.slice (v.start + 1) (v.stop - 1) content

/-- The content with another text between the quotes of a quoted value. -/
def QuotedValue.refill (content text : Text) (v : QuotedValue) : Text :=
  Text.takeBytes (v.start + 1) content ++ (text ++ Text.dropBytes (v.stop - 1) content)

/-- The quoted value `v` is the text `value` between two quotes of the content, with `front` in
front of the first and `back` behind the second. -/
structure QuotedValue.Holds (v : QuotedValue) (content front value back : Text) : Prop where
  eq_append : content = front ++ '"' :: (value ++ '"' :: back)
  quote_notMem : '"' ∉ value
  start_eq : v.start = Text.utf8Size front
  stop_eq : v.stop = Text.utf8Size front + Text.utf8Size value + 2

theorem exists_holds {content : Text} {v : QuotedValue} (hv : v ∈ quotedValues content) :
    ∃ front value back, v.Holds content front value back := by
  obtain ⟨front, value, back, hcontent, hquote, -, hstart, hstop⟩ :=
    exists_append_of_mem_quotedValuesFrom hv
  have hsize : Text.utf8Size (front ++ ['=']) = Text.utf8Size front + 1 := by
    rw [Text.utf8Size_append]
    rfl
  refine ⟨front ++ ['='], value, back, by simp [hcontent], hquote, ?_, ?_⟩
  · rw [hstart, hsize, Nat.zero_add]
  · rw [hstop, hstart, hsize, Nat.zero_add]

namespace QuotedValue.Holds

variable {v : QuotedValue} {content front value back : Text}

theorem start_add_one (h : v.Holds content front value back) :
    v.start + 1 = Text.utf8Size (front ++ ['"']) := by
  rw [h.start_eq, Text.utf8Size_append]
  rfl

theorem inside_eq (h : v.Holds content front value back) : v.inside content = value := by
  have hclosing : v.stop - 1 = v.start + 1 + Text.utf8Size value := by
    rw [h.stop_eq, h.start_eq]
    omega
  have hcontent : content = front ++ ['"'] ++ (value ++ '"' :: back) := by simp [h.eq_append]
  rw [inside, hclosing, h.start_add_one, hcontent, Text.slice_append]

theorem refill_eq (h : v.Holds content front value back) (text : Text) :
    v.refill content text = front ++ '"' :: (text ++ '"' :: back) := by
  have hclosing : v.stop - 1 = Text.utf8Size (front ++ ['"'] ++ value) := by
    rw [h.stop_eq, Text.utf8Size_append, Text.utf8Size_append]
    simp
    omega
  have hfront : content = front ++ ['"'] ++ (value ++ '"' :: back) := by simp [h.eq_append]
  have hback : content = front ++ ['"'] ++ value ++ '"' :: back := by simp [h.eq_append]
  have htake : Text.takeBytes (v.start + 1) content = front ++ ['"'] := by
    rw [h.start_add_one, hfront, Text.takeBytes_utf8Size_append]
  have hdrop : Text.dropBytes (v.stop - 1) content = '"' :: back := by
    rw [hclosing, hback, Text.dropBytes_utf8Size_append]
  rw [refill, htake, hdrop]
  simp

end QuotedValue.Holds

/-! ## Keys outside the quotes -/

/-- Each quote of the content belongs to a quoted value. -/
def AllQuoted (content : Text) : Prop :=
  ∀ front back, content = front ++ '"' :: back → isQuoted content (Text.utf8Size front) = true

/-- Without backslashes, the quotes that are not stray are those of quoted values. -/
theorem allQuoted_of_not_stray {content : Text} (hstray : hasStrayQuote content = false)
    (hslash : '\\' ∉ content) : AllQuoted content := by
  intro front back hcontent
  rcases (hasStrayQuote_eq_false_iff content).mp hstray front back hcontent with h | h
  · exact h
  · refine absurd ?_ hslash
    rw [hcontent]
    exact List.mem_append_left _ (List.mem_of_getLast? h)

/-- The key and `=` behind `front` stand outside the quotes of the content. -/
def StandsOutside (key content front : Text) : Prop :=
  ∀ v ∈ quotedValues content,
    v.stop ≤ Text.utf8Size front ∨ Text.utf8Size (front ++ key ++ ['=']) ≤ v.start

instance (key content front : Text) : Decidable (StandsOutside key content front) :=
  List.decidableBAll _ (quotedValues content)

/-- If no quoted text mentions the key, a `key=` of the content stands outside the quotes. -/
theorem standsOutside_of_not_mentions {key content front rest : Text} (hkey : IsKey key)
    (hcontent : content = front ++ (key ++ '=' :: rest))
    (hword : continuesWord front.getLast? = false)
    (hmentions : ∀ v ∈ quotedValues content, ¬Mentions key (v.inside content)) :
    StandsOutside key content front := by
  intro v hv
  have hinside := hmentions v hv
  obtain ⟨before, value, back, h⟩ := exists_holds hv
  have hquote : '"' ∉ key ++ ['='] := notMem_key hkey (by decide) (by decide)
  rw [h.inside_eq] at hinside
  have hcompare : front ++ (key ++ ['='] ++ rest) = before ++ '"' :: (value ++ '"' :: back) := by
    rw [← h.eq_append, hcontent]
    simp
  -- neither quote is part of the `key=`, so it is in front of both, between them or behind both
  rcases Text.append_eq_append_cons hquote hcompare with ⟨m, rfl, -⟩ | ⟨m, rfl, hbehind⟩
  · right
    rw [h.start_eq]
    simp only [Text.utf8Size_append]
    omega
  · rcases Text.append_eq_append_cons hquote hbehind.symm with ⟨m', rfl, -⟩ | ⟨m', rfl, -⟩
    · refine absurd ⟨m, m', by simp, ?_⟩ hinside
      cases hlast : m.getLast? with
      | none => rfl
      | some c => simpa [List.getLast?_append, List.getLast?_cons, hlast] using hword
    · left
      rw [h.stop_eq]
      simp only [Text.utf8Size_append, Text.utf8Size_cons, Text.utf8Size_quote]
      omega

/-- A quote behind a `key=` outside all quotes opens a quoted value. -/
theorem exists_quotedValue?_eq {key content front rest : Text} (hquotes : AllQuoted content)
    (hcontent : content = front ++ (key ++ '=' :: '"' :: rest))
    (houtside : StandsOutside key content front) :
    ∃ v ∈ quotedValues content, v.start = Text.utf8Size (front ++ key ++ ['=']) ∧
      quotedValue? ('"' :: rest) = some (v.inside content) := by
  have hquote : content = front ++ key ++ ['='] ++ '"' :: rest := by simp [hcontent]
  obtain ⟨v, hv, hcovers⟩ := List.any_eq_true.mp (hquotes _ rest hquote)
  rw [QuotedValue.covers, Bool.and_eq_true, decide_eq_true_iff, decide_eq_true_iff] at hcovers
  have hstart : v.start = Text.utf8Size (front ++ key ++ ['=']) := by
    rcases houtside v hv with hstop | hstart
    · simp only [Text.utf8Size_append] at hcovers
      omega
    · omega
  obtain ⟨before, value, back, h⟩ := exists_holds hv
  obtain ⟨-, hrest⟩ := Text.append_inj_of_utf8Size (hquote.symm.trans h.eq_append)
    (hstart.symm.trans h.start_eq)
  exact ⟨v, hv, hstart, by rw [hrest, quotedValue?_append h.quote_notMem, h.inside_eq]⟩

/-! ## Other texts in the quotes -/

/-- Behind a key, the text in quotes that does not mention it makes no difference. -/
theorem behindKey_quoted {key text : Text} (hkey : IsKey key) (htext : ¬Mentions key text)
    (before? : Option Char) (front back : Text) :
    behindKey key before? (front ++ '"' :: (text ++ '"' :: back)) =
      (behindKey key before? front).map (· ++ '"' :: (text ++ '"' :: back)) ++
        behindKey key (some '"') back := by
  have hquote : '"' ∉ key ++ ['='] := notMem_key hkey (by decide) (by decide)
  rw [behindKey_append_cons hquote, behindKey_append_cons hquote, behindKey_eq_nil htext]
  rfl

/-- What a key in front of the key and `=` of another value finds goes on with a blank and them. -/
theorem exists_append_of_mem_behindKey_word {key word front : Text} (hkey : IsKey key)
    (hword : IsKey word) (hne : word ≠ key)
    (hblank : ∀ c, front.getLast? = some c → Text.isBlank c = true) :
    ∀ r ∈ behindKey key none (front ++ (word ++ ['='])),
      ∃ r' c, Text.isBlank c = true ∧ r = r' ++ c :: (word ++ ['=']) := by
  intro r hr
  have hnone : ∀ before?, behindKey key before? (word ++ ['=']) = [] := by
    intro before?
    rw [behindKey_word hkey hword, if_neg fun h => hne h.2]
  cases hlast : front.getLast? with
  | none =>
    rw [List.getLast?_eq_none_iff.mp hlast, List.nil_append, hnone] at hr
    simp at hr
  | some c =>
    obtain ⟨front, rfl⟩ := List.getLast?_eq_some_iff.mp hlast
    have hc : Text.isBlank c = true := hblank c hlast
    have hequals : c ≠ '=' := by
      rintro rfl
      exact absurd hc (by decide)
    have hsplit := notMem_key hkey (not_isKeyChar_of_isBlank hc) hequals
    rw [List.append_assoc, List.singleton_append, behindKey_append_cons hsplit, hnone,
      List.append_nil, List.mem_map] at hr
    obtain ⟨r', -, rfl⟩ := hr
    exact ⟨r', c, hc, rfl⟩

/-- A quoted value in front of a text ends at the next quote, whatever is behind it. -/
theorem quotedValue?_append_congr {s : Text} (hs : s ≠ []) (t t' : Text) :
    quotedValue? (s ++ '"' :: t) = quotedValue? (s ++ '"' :: t') := by
  match s with
  | [] => exact absurd rfl hs
  | c :: s =>
    rw [List.cons_append, List.cons_append]
    by_cases hc : c = '"'
    · subst hc
      simp only [quotedValue?, Text.map_cut?_append]
    · simp [quotedValue?, hc]

/-- An unquoted value ends at the next blank, whatever is behind it. -/
theorem bareValue?_append_cons {c : Char} (hc : Text.isBlank c = true) (s t : Text) :
    bareValue? (s ++ c :: t) = bareValue? s := by
  have htake : (s ++ c :: t).takeWhile (fun d => !Text.isBlank d) =
      s.takeWhile fun d => !Text.isBlank d := by
    induction s with
    | nil => simp [hc]
    | cons d s ih => simp [List.takeWhile_cons, ih]
  rw [bareValue?, htake, bareValue?]

theorem findSome?_map_congr {f : Text → Option Text} {g g' : Text → Text} {l : List Text}
    (h : ∀ r ∈ l, f (g r) = f (g' r)) : (l.map g).findSome? f = (l.map g').findSome? f := by
  induction l with
  | nil => rfl
  | cons r l ih =>
    rw [List.map_cons, List.map_cons, List.findSome?_cons, List.findSome?_cons,
      h r List.mem_cons_self, ih fun r hr => h r (List.mem_cons_of_mem _ hr)]

/-- The text in the quotes of another key, behind a blank, does not matter to `extract`. -/
theorem extract_quoted_congr {key word front : Text} (hkey : IsKey key) (hword : IsKey word)
    (hne : word ≠ key) (hblank : ∀ c, front.getLast? = some c → Text.isBlank c = true)
    {text text' : Text} (htext : ¬Mentions key text) (htext' : ¬Mentions key text')
    (back : Text) :
    extract key (front ++ (word ++ ['=']) ++ '"' :: (text ++ '"' :: back)) =
      extract key (front ++ (word ++ ['=']) ++ '"' :: (text' ++ '"' :: back)) := by
  have hbehind := exists_append_of_mem_behindKey_word hkey hword hne hblank
  have hquoted : ∀ r ∈ behindKey key none (front ++ (word ++ ['='])),
      quotedValue? (r ++ '"' :: (text ++ '"' :: back)) =
        quotedValue? (r ++ '"' :: (text' ++ '"' :: back)) := by
    intro r hr
    obtain ⟨r', c, -, rfl⟩ := hbehind r hr
    exact quotedValue?_append_congr (by simp) _ _
  have hbare : ∀ r ∈ behindKey key none (front ++ (word ++ ['='])),
      bareValue? (r ++ '"' :: (text ++ '"' :: back)) =
        bareValue? (r ++ '"' :: (text' ++ '"' :: back)) := by
    intro r hr
    obtain ⟨r', c, hc, rfl⟩ := hbehind r hr
    simp only [List.append_assoc, List.cons_append, bareValue?_append_cons hc]
  rw [extract_eq hkey, extract_eq hkey, behindKey_quoted hkey htext, behindKey_quoted hkey htext']
  simp only [List.findSome?_append]
  rw [findSome?_map_congr hquoted, findSome?_map_congr hbare]

/-! ## What is extracted -/

/-- If each quote belongs to a quoted value and no quoted text mentions the key, the value of the
key stands behind a `key=` outside all quotes : it is a quoted value or an unquoted one. Another
text in the quotes of another key, if a blank or nothing stands in front of that key and the text
does not mention the first, changes nothing. -/
theorem extract_outside_quotes {key content : Text} (hkey : IsKey key)
    (hquotes : AllQuoted content)
    (hmentions : ∀ v ∈ quotedValues content, ¬Mentions key (v.inside content)) :
    (∀ value, extract key content = some value → ∃ front rest,
      content = front ++ (key ++ '=' :: rest) ∧ StandsOutside key content front ∧
      ((∃ v ∈ quotedValues content, v.start = Text.utf8Size (front ++ key ++ ['=']) ∧
          v.inside content = value) ∨
        rest.head? ≠ some '"' ∧ bareValue? rest = some value)) ∧
    ∀ v ∈ quotedValues content, ∀ front word text,
      Text.takeBytes v.start content = front ++ (word ++ ['=']) → IsKey word → word ≠ key →
      (∀ c, front.getLast? = some c → Text.isBlank c = true) → ¬Mentions key text →
      extract key (v.refill content text) = extract key content := by
  refine ⟨fun value hvalue => ?_, fun v hv front word text hfront hword hne hblank htext => ?_⟩
  · have hbehind : ∀ r ∈ behindKey key none content, ∃ front,
        content = front ++ (key ++ '=' :: r) ∧ StandsOutside key content front := by
      intro r hr
      obtain ⟨front, hcontent, hword⟩ := exists_append_of_mem_behindKey hr
      rw [Option.or_none] at hword
      exact ⟨front, hcontent, standsOutside_of_not_mentions hkey hcontent hword hmentions⟩
    rw [extract_eq hkey, Option.or_eq_some_iff] at hvalue
    rcases hvalue with hquoted | ⟨hnone, hbare⟩
    · obtain ⟨r, hr, hr'⟩ := List.exists_of_findSome?_eq_some hquoted
      obtain ⟨front, hcontent, houtside⟩ := hbehind r hr
      refine ⟨front, r, hcontent, houtside, Or.inl ?_⟩
      obtain ⟨rest, rfl, -⟩ := exists_append_of_quotedValue? hr'
      obtain ⟨v, hv, hstart, hinside⟩ := exists_quotedValue?_eq hquotes hcontent houtside
      exact ⟨v, hv, hstart, Option.some.inj (hinside.symm.trans hr')⟩
    · obtain ⟨r, hr, hr'⟩ := List.exists_of_findSome?_eq_some hbare
      obtain ⟨front, hcontent, houtside⟩ := hbehind r hr
      refine ⟨front, r, hcontent, houtside, Or.inr ⟨fun hhead => ?_, hr'⟩⟩
      -- with a quote in front it would have been found as a quoted value
      obtain ⟨rest, rfl⟩ := List.head?_eq_some_iff.mp hhead
      obtain ⟨v, -, -, hinside⟩ := exists_quotedValue?_eq hquotes hcontent houtside
      rw [List.findSome?_eq_none_iff.mp hnone _ hr] at hinside
      cases hinside
  · obtain ⟨before, value, back, h⟩ := exists_holds hv
    have hinside := hmentions v hv
    obtain rfl : before = front ++ (word ++ ['=']) := by
      rw [← hfront, h.start_eq, h.eq_append, Text.takeBytes_utf8Size_append]
    rw [h.inside_eq] at hinside
    rw [h.refill_eq, extract_quoted_congr hkey hword hne hblank htext hinside, ← h.eq_append]

/-- A name is read as before when the text of the default is another one. -/
theorem extract_outside_quotes_argument :
    let content := "argument name=\"a|b\" default=\"x y\"".toList
    let changed := "argument name=\"a|b\" default=\"é=1\"".toList
    let key := "name".toList
    (IsKey key ∧ AllQuoted content ∧ ∀ v ∈ quotedValues content, ¬Mentions key (v.inside content)) ∧
      extract key content = some "a|b".toList ∧
      (∃ front rest, content = front ++ (key ++ '=' :: rest) ∧ StandsOutside key content front) ∧
      extract key changed = extract key content := by
  intro content changed key
  have hkey : IsKey key := by decide +kernel
  have hquotes : AllQuoted content :=
    allQuoted_of_not_stray (by decide +kernel) (by decide +kernel)
  have hinfix : ∀ v ∈ quotedValues content, ¬key ++ ['='] <:+: v.inside content := by
    decide +kernel
  have hmentions : ∀ v ∈ quotedValues content, ¬Mentions key (v.inside content) :=
    fun v hv h => hinfix v hv (infix_of_mentions h)
  have hname : extract key content = some "a|b".toList := by decide +kernel
  have htext : ¬Mentions key "é=1".toList := fun h =>
    absurd (infix_of_mentions h) (by decide +kernel)
  have hrefill : QuotedValue.refill content "é=1".toList ⟨28, 33⟩ = changed := by decide +kernel
  obtain ⟨hvalue, hother⟩ := extract_outside_quotes hkey hquotes hmentions
  obtain ⟨front, rest, hcontent, houtside, -⟩ := hvalue _ hname
  have hblank : ∀ c, ("argument name=\"a|b\" ".toList).getLast? = some c →
      Text.isBlank c = true := by
    rintro c ⟨⟩
    decide
  have hsame := hother ⟨28, 33⟩ (by decide +kernel) "argument name=\"a|b\" ".toList
    "default".toList "é=1".toList (by decide +kernel) (by decide +kernel) (by decide +kernel)
    hblank htext
  rw [hrefill] at hsame
  exact ⟨⟨hkey, hquotes, hmentions⟩, hname, ⟨front, rest, hcontent, houtside⟩, hsame⟩

/-- The default is read out of the quotes of the name, and another name changes it. -/
theorem quoted_text_extracted :
    (¬∀ key content value : Text, IsKey key → AllQuoted content →
      extract key content = some value → ∃ front rest,
        content = front ++ (key ++ '=' :: rest) ∧ StandsOutside key content front) ∧
    ¬∀ key content : Text, IsKey key → AllQuoted content → ∀ v ∈ quotedValues content,
      ∀ front word text, Text.takeBytes v.start content = front ++ (word ++ ['=']) →
        IsKey word → word ≠ key → '"' ∉ text →
          extract key (v.refill content text) = extract key content := by
  let content := "argument name=\"x default=y\"".toList
  let key := "default".toList
  have hkey : IsKey key := by decide +kernel
  have hquotes : AllQuoted content :=
    allQuoted_of_not_stray (by decide +kernel) (by decide +kernel)
  have hvalue : extract key content = some "y\"".toList := by decide +kernel
  refine ⟨fun h => ?_, fun h => ?_⟩
  · obtain ⟨front, rest, hcontent, houtside⟩ := h key content _ hkey hquotes hvalue
    have hinside : ∀ n ≤ content.length, key ++ ['='] <+: content.drop n →
        ¬StandsOutside key content (content.take n) := by
      decide +kernel
    have hlength : front.length ≤ content.length := by simp [hcontent]
    have hprefix : key ++ ['='] <+: content.drop front.length := ⟨rest, by simp [hcontent]⟩
    refine hinside front.length hlength hprefix ?_
    rwa [show content.take front.length = front by simp [hcontent]]
  · have hsame := h key content hkey hquotes ⟨14, 27⟩ (by decide +kernel) "argument ".toList
      "name".toList [] (by decide +kernel) (by decide +kernel) (by decide +kernel) (by simp)
    have hnone : extract key (QuotedValue.refill content [] ⟨14, 27⟩) = none := by decide +kernel
    rw [hnone, hvalue] at hsame
    cases hsame

end Attribute

end LinkTemplate
