import LinkTemplate.Proofs.Placeholder.QuotedMatching

/-!
# The search for quoted values in rounds

The quoted values of a text can be searched for in rounds by position. A round looks for the next
`=` with a quote behind it and for the quote after that. If a key character stands in front of the
`=`, the round finds a value and the next round starts behind its closing quote. Otherwise, and if
there is no other quote, it finds nothing and the next round starts behind the first quote
(`searchRound?`). The rounds come to an end on every text, and find what the scan from character to
character finds (`searchEnds_quotedValuesFrom`).
-/

namespace LinkTemplate

namespace Text

/-- The position in a text where a pattern first occurs. -/
def find? (pattern : Text) : Text → Option Nat
  | [] => if pattern = [] then some 0 else none
  | c :: rest =>
    if pattern.isPrefixOf (c :: rest) then some 0
    else (find? pattern rest).map (c.utf8Size + ·)

/-- A character is found where a text is cut at it. -/
theorem find?_singleton (x : Char) (t : Text) :
    find? [x] t = (cut? x t).map fun p => utf8Size p.1 := by
  induction t with
  | nil => simp [find?, cut?]
  | cons c t ih =>
    by_cases hc : c = x
    · simp [find?, cut?, hc]
    · simp [find?, cut?, hc, Ne.symm hc, ih, Function.comp_def]

end Text

namespace Attribute

/-! ## One round -/

/-- A round of the search that starts at a position : the value it finds, if any, and the position
where the next round starts. There is no round if no `=` with a quote behind it is left. -/
def searchRound? (content : Text) (start : Nat) : Option (Option QuotedValue × Nat) :=
  (Text.find? ['=', '"'] (Text.dropBytes start content)).map fun offset =>
    let equals := start + offset
    let opened := equals + 2
    match Text.find? ['"'] (Text.dropBytes opened content) with
    | some length =>
      if continuesWord (Text.takeBytes equals content).getLast? then
        (some ⟨equals + 1, opened + length + 1⟩, opened + length + 1)
      else (none, opened)
    | none => (none, opened)

/-- The rounds from a position on come to an end and find these values. -/
inductive SearchEnds (content : Text) : Nat → List QuotedValue → Prop
  | done {start : Nat} (h : searchRound? content start = none) : SearchEnds content start []
  | round {start next : Nat} {found? : Option QuotedValue} {vs : List QuotedValue}
      (h : searchRound? content start = some (found?, next)) (hrest : SearchEnds content next vs) :
    SearchEnds content start (found?.toList ++ vs)

theorem SearchEnds.unique {content : Text} {start : Nat} {vs ws : List QuotedValue}
    (hv : SearchEnds content start vs) (hw : SearchEnds content start ws) : vs = ws := by
  induction hv generalizing ws with
  | done h =>
    cases hw with
    | done => rfl
    | round h' => exact absurd (h.symm.trans h') (by simp)
  | round h _ ih =>
    cases hw with
    | done h' => exact absurd (h.symm.trans h') (by simp)
    | round h' hrest' =>
      obtain ⟨rfl, rfl⟩ := Prod.mk.inj (Option.some.inj (h.symm.trans h'))
      rw [ih hrest']

variable {before? : Option Char} {text rest : Text}

theorem isPrefixOf_of_opens {value after : Text} (h : Opens before? value after text) :
    ['=', '"'].isPrefixOf text = true := by
  rw [h.eq_append]
  rfl

theorem quotedValuesFrom_of_find?_eq_none (h : Text.find? ['=', '"'] text = none) (position : Nat) :
    quotedValuesFrom position before? 0 text = [] := by
  induction text generalizing position before? with
  | nil => rfl
  | cons c rest ih =>
    rw [Text.find?] at h
    split at h
    · cases h
    · next hprefix =>
      rw [quotedValuesFrom_of_not_opens fun _ _ hopens => hprefix (isPrefixOf_of_opens hopens)]
      exact ih (by simpa using h) _

/-- The scan passes over what stands in front of the next `=` with a quote behind it. -/
theorem exists_append_of_find?_eq_some {offset : Nat}
    (h : Text.find? ['=', '"'] text = some offset) :
    ∃ skipped rest, text = skipped ++ '=' :: '"' :: rest ∧ offset = Text.utf8Size skipped ∧
      ∀ position before?, quotedValuesFrom position before? 0 text =
        quotedValuesFrom (position + offset) (skipped.getLast?.or before?) 0
          ('=' :: '"' :: rest) := by
  induction text generalizing offset with
  | nil => simp [Text.find?] at h
  | cons c text ih =>
    rw [Text.find?] at h
    split at h
    · next hprefix =>
      obtain ⟨rest, hrest⟩ := List.isPrefixOf_iff_prefix.mp hprefix
      obtain rfl := Option.some.inj h
      exact ⟨[], rest, hrest.symm, rfl, fun position before? => by rw [← hrest]; rfl⟩
    · next hprefix =>
      obtain ⟨offset, hfind, rfl⟩ := Option.map_eq_some_iff.mp h
      obtain ⟨skipped, rest, rfl, rfl, hscan⟩ := ih hfind
      refine ⟨c :: skipped, rest, rfl, rfl, fun position before? => ?_⟩
      rw [quotedValuesFrom_of_not_opens fun _ _ hopens => hprefix (isPrefixOf_of_opens hopens),
        hscan, Text.getLast?_cons_or, Nat.add_assoc]

section Round

variable {content before : Text} {start offset : Nat}

/-- A round that finds an `=` with a quote behind it, in terms of the text around. -/
theorem searchRound?_eq (hfind : Text.find? ['=', '"'] (Text.dropBytes start content) = some offset)
    (hbefore : start + offset = Text.utf8Size before)
    (hcontent : content = before ++ '=' :: '"' :: rest) :
    searchRound? content start = some (match Text.cut? '"' rest with
      | some (value, _) =>
        if continuesWord before.getLast? then
          (some ⟨Text.utf8Size before + 1, Text.utf8Size before + 1 + Text.utf8Size value + 2⟩,
            Text.utf8Size before + 1 + Text.utf8Size value + 2)
        else (none, Text.utf8Size before + 2)
      | none => (none, Text.utf8Size before + 2)) := by
  have htake : Text.takeBytes (Text.utf8Size before) content = before := by
    rw [hcontent, Text.takeBytes_utf8Size_append]
  have hdrop : Text.dropBytes (Text.utf8Size before + 2) content = rest := by
    have happend : content = before ++ ['=', '"'] ++ rest := by simp [hcontent]
    have hsize : Text.utf8Size before + 2 = Text.utf8Size (before ++ ['=', '"']) := by
      rw [Text.utf8Size_append]
      rfl
    rw [hsize, happend, Text.dropBytes_utf8Size_append]
  have hstop : ∀ n, Text.utf8Size before + 2 + n + 1 = Text.utf8Size before + 1 + n + 2 := by omega
  rw [searchRound?, hfind, Option.map_some]
  simp only [hbefore, htake, hdrop, Text.find?_singleton]
  cases Text.cut? '"' rest with
  | none => rfl
  | some p => simp only [Option.map_some, hstop]

theorem searchRound?_of_opens {value after : Text}
    (hfind : Text.find? ['=', '"'] (Text.dropBytes start content) = some offset)
    (hbefore : start + offset = Text.utf8Size before)
    (hcontent : content = before ++ '=' :: '"' :: rest)
    (h : Opens before.getLast? value after ('=' :: '"' :: rest)) :
    searchRound? content start =
      some (some ⟨Text.utf8Size before + 1, Text.utf8Size before + 1 + Text.utf8Size value + 2⟩,
        Text.utf8Size before + 1 + Text.utf8Size value + 2) := by
  obtain ⟨hkeyed, hquote, hrest⟩ := h
  obtain ⟨-, hrest⟩ := List.cons.inj hrest
  obtain ⟨-, rfl⟩ := List.cons.inj hrest
  rw [searchRound?_eq hfind hbefore hcontent, Text.cut?_append hquote]
  simp only [hkeyed, if_true]

theorem searchRound?_of_not_opens
    (hfind : Text.find? ['=', '"'] (Text.dropBytes start content) = some offset)
    (hbefore : start + offset = Text.utf8Size before)
    (hcontent : content = before ++ '=' :: '"' :: rest)
    (h : ∀ value after, ¬Opens before.getLast? value after ('=' :: '"' :: rest)) :
    searchRound? content start = some (none, Text.utf8Size before + 2) := by
  rw [searchRound?_eq hfind hbefore hcontent]
  cases hcut : Text.cut? '"' rest with
  | none => rfl
  | some p =>
    obtain ⟨rfl, hquote⟩ := Text.eq_of_cut? hcut
    have hkeyed : continuesWord before.getLast? = false :=
      Bool.eq_false_iff.mpr fun hkeyed => h p.1 p.2 ⟨hkeyed, hquote, rfl⟩
    simp only [hkeyed, Bool.false_eq_true, if_false]

end Round

/-! ## All rounds -/

/-- The rounds from a place on come to an end and find what the scan from there on finds. -/
theorem searchEnds_quotedValuesFrom {content text : Text} (front : Text)
    (hcontent : content = front ++ text) :
    SearchEnds content (Text.utf8Size front)
      (quotedValuesFrom (Text.utf8Size front) front.getLast? 0 text) := by
  induction hlength : text.length using Nat.strongRecOn generalizing front text with
  | ind n ih =>
    subst hlength
    have hdrop : Text.dropBytes (Text.utf8Size front) content = text := by
      rw [hcontent, Text.dropBytes_utf8Size_append]
    cases hfind : Text.find? ['=', '"'] text with
    | none =>
      rw [quotedValuesFrom_of_find?_eq_none hfind]
      exact .done (by rw [searchRound?, hdrop, hfind, Option.map_none])
    | some offset =>
      obtain ⟨skipped, rest, rfl, rfl, hscan⟩ := exists_append_of_find?_eq_some hfind
      rw [← hdrop] at hfind
      have hbefore := (Text.utf8Size_append front skipped).symm
      have hpair : content = front ++ skipped ++ '=' :: '"' :: rest := by simp [hcontent]
      rw [hscan, hbefore, ← List.getLast?_append]
      by_cases hopens : ∃ value after,
          Opens (front ++ skipped).getLast? value after ('=' :: '"' :: rest)
      · obtain ⟨value, after, hopens⟩ := hopens
        have hround := searchRound?_of_opens hfind hbefore hpair hopens
        have hbehind : content = front ++ skipped ++ '=' :: '"' :: value ++ ['"'] ++ after := by
          simp [hcontent, hopens.eq_append]
        have hlt : after.length < (skipped ++ '=' :: '"' :: rest).length := by
          rw [hopens.eq_append]
          simp only [List.length_append, List.length_cons]
          omega
        have hrest := ih _ hlt _ hbehind rfl
        rw [utf8Size_append_pair, List.getLast?_concat] at hrest
        rw [quotedValuesFrom_of_opens hopens]
        exact .round hround hrest
      · have hnone : ∀ value after,
            ¬Opens (front ++ skipped).getLast? value after ('=' :: '"' :: rest) :=
          fun value after h => hopens ⟨value, after, h⟩
        have hround := searchRound?_of_not_opens hfind hbefore hpair hnone
        have hquote : ∀ value after, ¬Opens (some '=') value after ('"' :: rest) :=
          fun _ _ h => absurd (List.cons.inj h.eq_append).1 (by decide)
        have hbehind : content = front ++ skipped ++ ['=', '"'] ++ rest := by simp [hcontent]
        have hsize : Text.utf8Size (front ++ skipped ++ ['=', '"']) =
            Text.utf8Size (front ++ skipped) + 2 := by
          rw [Text.utf8Size_append _ ['=', '"']]
          rfl
        have hlt : rest.length < (skipped ++ '=' :: '"' :: rest).length := by
          simp only [List.length_append, List.length_cons]
          omega
        have hrest := ih _ hlt _ hbehind rfl
        rw [hsize, List.getLast?_append] at hrest
        rw [quotedValuesFrom_of_not_opens hnone, quotedValuesFrom_of_not_opens hquote]
        exact .round hround hrest

/-- The quoted values of a text are those of the leftmost matching, without overlap, of a key
character, `=`, a quote, a text without quotes and a quote. They follow one another, each is matched
so, and a match that is not among them begins inside one that is in front of it. A quote is stray if
it lies in none of them and stands behind no backslash. The rounds of the search come to an end on
every text, and find them. -/
theorem quotedValues_leftmost (content : Text) :
    (∀ vs, LeftmostFrom content 0 vs ↔ vs = quotedValues content) ∧
    (quotedValues content).Pairwise (fun v w => v.stop < w.start) ∧
    (∀ v ∈ quotedValues content, ∃ place, v.MatchedAt content place) ∧
    (∀ w place, QuotedValue.MatchedAt w content place → w ∈ quotedValues content ∨
      ∃ v ∈ quotedValues content, v.start < w.start ∧ place < v.stop) ∧
    (hasStrayQuote content = true ↔ ∃ front back, content = front ++ '"' :: back ∧
      (∀ v ∈ quotedValues content, v.covers (Text.utf8Size front) = false) ∧
      front.getLast? ≠ some '\\') ∧
    ∀ vs, SearchEnds content 0 vs ↔ vs = quotedValues content := by
  have hleftmost : LeftmostFrom content 0 (quotedValues content) :=
    leftmostFrom_quotedValuesFrom [] rfl (resumesAt_zero content)
  have hends : SearchEnds content 0 (quotedValues content) :=
    searchEnds_quotedValuesFrom [] rfl
  refine ⟨fun vs => ⟨fun h => h.unique hleftmost, fun h => h ▸ hleftmost⟩, hleftmost.pairwise,
    fun v hv => ?_, fun w place hw => hleftmost.mem_or_begins_inside hw (Nat.zero_le _), ?_,
    fun vs => ⟨fun h => h.unique hends, fun h => h ▸ hends⟩⟩
  · obtain ⟨place, -, hplace⟩ := hleftmost.exists_matchedAt v hv
    exact ⟨place, hplace⟩
  · rw [← Bool.not_eq_false, hasStrayQuote_eq_false_iff]
    simp [isQuoted]

/-- A match that begins inside the quotes of another one is left out. Of the two quotes at the end,
the one without a backslash is stray. -/
theorem quotedValues_leftmost_overlap :
    let front := "a=\"é=\"b=\"x\" \\\" ".toList
    let content := front ++ ['"']
    let inner : QuotedValue := ⟨6, 10⟩
    quotedValues content = [⟨2, 7⟩, ⟨9, 12⟩] ∧ inner.MatchedAt content 3 ∧
      (∃ v ∈ quotedValues content, v.start < inner.start ∧ 3 < v.stop) ∧
      hasStrayQuote content = true ∧ SearchEnds content 0 [⟨2, 7⟩, ⟨9, 12⟩] := by
  intro front content inner
  have hvalues : quotedValues content = [⟨2, 7⟩, ⟨9, 12⟩] := by decide +kernel
  have hinner : inner.MatchedAt content 3 :=
    ⟨"a=\"".toList, 'é', "b=".toList, "x\" \\\" \"".toList, by decide +kernel,
      ⟨by decide, by decide, by decide, by decide⟩, by decide⟩
  have hother : inner ∉ quotedValues content := by
    rw [hvalues]
    decide
  have houtside : ∀ v ∈ quotedValues content, v.covers (Text.utf8Size front) = false := by
    rw [hvalues]
    decide
  obtain ⟨-, -, -, hleft, hstray, hends⟩ := quotedValues_leftmost content
  exact ⟨hvalues, hinner, (hleft inner 3 hinner).resolve_left hother,
    hstray.mpr ⟨front, [], rfl, houtside, by decide⟩, (hends _).mpr hvalues.symm⟩

end Attribute

end LinkTemplate
