import LinkTemplate.Proofs.Placeholder.Keys

/-!
# The places of a key

The search for a key gives the positions behind each `key=` whose key does not continue a word, in
increasing order and without missing one (`pairwise_valueStarts`, `mem_valueStarts_iff`), although
it skips the occurrences that overlap an earlier one. So the value of a key is told by these
positions alone : it is the quoted text at the first of them that has one, or else the unquoted text
at the first that has one (`findSome?_valueStarts_eq_some_iff`).
-/

namespace LinkTemplate.Attribute

/-! ## Positions -/

/-- The position is behind a `key=` of the content, where the key does not continue a word. -/
def IsValueStart (key content : Text) (position : Nat) : Prop :=
  ∃ front back, content = front ++ (key ++ '=' :: back) ∧
    continuesWord front.getLast? = false ∧ position = Text.utf8Size (front ++ (key ++ ['=']))

theorem exists_append_of_mem_occurrencesFrom {key text : Text} {position skip p : Nat}
    (h : p ∈ occurrencesFrom key position skip text) :
    ∃ front rest, text = front ++ (key ++ rest) ∧ p = position + Text.utf8Size front := by
  induction text generalizing position skip with
  | nil =>
    rw [occurrencesFrom] at h
    split at h
    · next hnil =>
      rw [List.mem_singleton] at h
      exact ⟨[], [], by rw [hnil]; rfl, h⟩
    · simp at h
  | cons c text ih =>
    have hrest : ∀ {skip'}, p ∈ occurrencesFrom key (position + c.utf8Size) skip' text →
        ∃ front rest, c :: text = front ++ (key ++ rest) ∧
          p = position + Text.utf8Size front := by
      intro skip' hmem
      obtain ⟨front, rest, rfl, rfl⟩ := ih hmem
      exact ⟨c :: front, rest, rfl, by rw [Text.utf8Size_cons, Nat.add_assoc]⟩
    cases skip with
    | succ skip => exact hrest h
    | zero =>
      rw [occurrencesFrom] at h
      split at h
      · next hprefix =>
        obtain ⟨rest, hrest'⟩ := List.isPrefixOf_iff_prefix.mp hprefix
        rcases List.mem_cons.mp h with rfl | h
        · exact ⟨[], rest, hrest'.symm, rfl⟩
        · exact hrest h
      · exact hrest h

theorem pairwise_occurrencesFrom (key : Text) (position skip : Nat) (text : Text) :
    (occurrencesFrom key position skip text).Pairwise (· < ·) := by
  induction text generalizing position skip with
  | nil =>
    rw [occurrencesFrom]
    split <;> simp
  | cons c text ih =>
    cases skip with
    | succ skip => exact ih _ _
    | zero =>
      rw [occurrencesFrom]
      split
      · refine List.pairwise_cons.mpr ⟨fun p hp => ?_, ih _ _⟩
        obtain ⟨front, -, -, rfl⟩ := exists_append_of_mem_occurrencesFrom hp
        have hsize := Char.utf8Size_pos c
        omega
      · exact ih _ _

theorem isValueStart_of_mem {key content : Text} {n : Nat} (h : n ∈ valueStarts key content) :
    IsValueStart key content n := by
  obtain ⟨p, hp, hstart⟩ := List.mem_filterMap.mp h
  obtain ⟨front, rest, rfl, rfl⟩ := exists_append_of_mem_occurrencesFrom hp
  rw [Nat.zero_add, valueStart?_append] at hstart
  split at hstart
  · next hplace =>
    obtain ⟨hword, hequals⟩ := hplace
    obtain ⟨back, rfl⟩ := List.head?_eq_some_iff.mp hequals
    exact ⟨front, back, rfl, hword, (Option.some.inj hstart).symm⟩
  · cases hstart

theorem dropBytes_behind_key (key front back : Text) :
    Text.dropBytes (Text.utf8Size (front ++ (key ++ ['=']))) (front ++ (key ++ '=' :: back)) =
      back := by
  have happend : front ++ (key ++ '=' :: back) = front ++ (key ++ ['=']) ++ back := by simp
  rw [happend, Text.dropBytes_utf8Size_append]

/-- The search finds the places of a key without missing one. -/
theorem mem_valueStarts_iff {key : Text} (hkey : IsKey key) {content : Text} {n : Nat} :
    n ∈ valueStarts key content ↔ IsValueStart key content n := by
  refine ⟨isValueStart_of_mem, ?_⟩
  rintro ⟨front, back, hcontent, hword, rfl⟩
  -- the text behind the place is found, and only the place itself has it behind it
  have hback : back ∈ (valueStarts key content).map (Text.dropBytes · content) := by
    rw [map_dropBytes_valueStarts hkey, hcontent]
    exact mem_behindKey_append (by rwa [Option.or_none])
  obtain ⟨m, hm, hdrop⟩ := List.mem_map.mp hback
  obtain ⟨front', back', hcontent', -, rfl⟩ := isValueStart_of_mem hm
  have hsame : back' = back := by
    rw [← hdrop, hcontent', dropBytes_behind_key]
  have happend : front ++ (key ++ ['=']) ++ back = front' ++ (key ++ ['=']) ++ back := by
    have heq := hcontent.symm.trans hcontent'
    rw [hsame] at heq
    simpa using heq
  rwa [List.append_cancel_right happend]

theorem pairwise_valueStarts (key content : Text) :
    (valueStarts key content).Pairwise (· < ·) := by
  refine (pairwise_occurrencesFrom key 0 0 content).filterMap _ fun p q hlt n hn m hm => ?_
  have hshift : ∀ {p n}, valueStart? key content p = some n → n = p + Text.utf8Size key + 1 := by
    intro p n h
    simp only [valueStart?, Option.ite_none_right_eq_some, Option.some.injEq] at h
    exact h.2.symm
  rw [hshift hn, hshift hm]
  omega

/-! ## Values -/

/-- The text starts with the value between two quotes. -/
def StartsQuoted (t value : Text) : Prop :=
  '"' ∉ value ∧ ∃ after, t = '"' :: (value ++ '"' :: after)

/-- The text starts with the value, which is not empty and ends at the first blank. -/
def StartsBare (t value : Text) : Prop :=
  value ≠ [] ∧ (∀ c ∈ value, Text.isBlank c = false) ∧
    ∃ after, t = value ++ after ∧ ∀ c, after.head? = some c → Text.isBlank c = true

theorem quotedValue?_eq_some_iff {t value : Text} :
    quotedValue? t = some value ↔ StartsQuoted t value := by
  constructor
  · intro h
    obtain ⟨after, ht, hquote⟩ := exists_append_of_quotedValue? h
    exact ⟨hquote, after, ht⟩
  · rintro ⟨hquote, after, rfl⟩
    exact quotedValue?_append hquote after

theorem bareValue?_eq_some_iff {t value : Text} :
    bareValue? t = some value ↔ StartsBare t value := by
  rw [bareValue?]
  constructor
  · intro h
    obtain ⟨hne, hvalue⟩ := Option.ite_none_left_eq_some.mp h
    obtain rfl := Option.some.inj hvalue
    refine ⟨hne, fun c hc => ?_, t.dropWhile fun c => !Text.isBlank c,
      List.takeWhile_append_dropWhile.symm, fun c hc => ?_⟩
    · simpa using List.all_eq_true.mp List.all_takeWhile c hc
    · simpa [hc] using List.head?_dropWhile_not (fun c => !Text.isBlank c) t
  · rintro ⟨hne, hvalue, after, rfl, hafter⟩
    have hend : after.takeWhile (fun c => !Text.isBlank c) = [] := by
      cases after with
      | nil => rfl
      | cons c after => rw [List.takeWhile_cons_of_neg (by simp [hafter c rfl])]
    have htake : (value ++ after).takeWhile (fun c => !Text.isBlank c) = value := by
      rw [List.takeWhile_append_of_pos (by simpa using hvalue), hend, List.append_nil]
    rw [htake, if_neg hne]

/-- The value is what stands at the first place of the key that has one. -/
def IsFirst (Starts : Text → Text → Prop) (key content value : Text) : Prop :=
  ∃ n, IsValueStart key content n ∧ Starts (Text.dropBytes n content) value ∧
    ∀ m < n, IsValueStart key content m → ∀ w, ¬Starts (Text.dropBytes m content) w

/-- No place of the key has a value. -/
def IsAbsent (Starts : Text → Text → Prop) (key content : Text) : Prop :=
  ∀ n, IsValueStart key content n → ∀ w, ¬Starts (Text.dropBytes n content) w

/-- In an increasing list of places, the first with a value is the least. -/
theorem findSome?_eq_some_iff_of_pairwise {places : List Nat} (h : places.Pairwise (· < ·))
    {value? : Nat → Option Text} {value : Text} :
    places.findSome? value? = some value ↔
      ∃ n ∈ places, value? n = some value ∧ ∀ m ∈ places, m < n → value? m = none := by
  constructor
  · intro hfind
    obtain ⟨before, n, behind, rfl, hvalue, hnone⟩ := List.findSome?_eq_some_iff.mp hfind
    refine ⟨n, by simp, hvalue, fun m hm hlt => ?_⟩
    rcases List.mem_append.mp hm with hm | hm
    · exact hnone m hm
    · have hle : n ≤ m := by
        rcases List.mem_cons.mp hm with rfl | hm
        · exact Nat.le_refl _
        · exact Nat.le_of_lt ((List.pairwise_cons.mp (List.pairwise_append.mp h).2.1).1 m hm)
      omega
  · rintro ⟨n, hn, hvalue, hnone⟩
    obtain ⟨before, behind, rfl⟩ := List.append_of_mem hn
    refine List.findSome?_eq_some_iff.mpr ⟨before, n, behind, rfl, hvalue, fun m hm => ?_⟩
    have hlt : m < n := (List.pairwise_append.mp h).2.2 m hm n List.mem_cons_self
    exact hnone m (List.mem_append_left _ hm) hlt

section Values

variable {key content : Text} {read : Text → Option Text} {Starts : Text → Text → Prop}

/-- The first value behind the places that the search finds is the one at the first place of the
key that has one. -/
theorem findSome?_valueStarts_eq_some_iff (hkey : IsKey key)
    (hread : ∀ t value, read t = some value ↔ Starts t value) {value : Text} :
    ((valueStarts key content).map fun start => Text.dropBytes start content).findSome? read =
        some value ↔ IsFirst Starts key content value := by
  have hnone : ∀ t, read t = none ↔ ∀ w, ¬Starts t w := fun t => by
    simp only [Option.eq_none_iff_forall_ne_some, ne_eq, hread]
  rw [List.findSome?_map, findSome?_eq_some_iff_of_pairwise (pairwise_valueStarts key content)]
  simp only [mem_valueStarts_iff hkey, Function.comp_apply, hread, hnone, IsFirst]
  refine exists_congr fun n => and_congr_right fun _ => and_congr_right fun _ => ?_
  exact ⟨fun h m hlt hm => h m hm hlt, fun h m hm hlt => h m hlt hm⟩

theorem findSome?_valueStarts_eq_none_iff (hkey : IsKey key)
    (hread : ∀ t value, read t = some value ↔ Starts t value) :
    ((valueStarts key content).map fun start => Text.dropBytes start content).findSome? read =
        none ↔ IsAbsent Starts key content := by
  rw [List.findSome?_eq_none_iff, List.forall_mem_map]
  simp only [mem_valueStarts_iff hkey, Option.eq_none_iff_forall_ne_some, ne_eq, hread, IsAbsent]

end Values

/-- The search for a key of key characters finds the places behind each `=` of the key, overlapping
ones among them, where the key does not continue a word, and finds them in increasing order. What
is extracted is the text up to the next quote at the first of them that has a quote and another
one behind it, or else the text up to the next blank at the first where this is not empty, or else
nothing. -/
theorem search_misses_no_place {key : Text} (hkey : IsKey key) (content : Text) :
    (valueStarts key content).Pairwise (· < ·) ∧
    (∀ n, n ∈ valueStarts key content ↔ IsValueStart key content n) ∧
    (∀ value, extract key content = some value ↔ IsFirst StartsQuoted key content value ∨
      IsAbsent StartsQuoted key content ∧ IsFirst StartsBare key content value) ∧
    (extract key content = none ↔
      IsAbsent StartsQuoted key content ∧ IsAbsent StartsBare key content) := by
  have hquoted : ∀ t value, quotedValue? t = some value ↔ StartsQuoted t value :=
    fun _ _ => quotedValue?_eq_some_iff
  have hbare : ∀ t value, bareValue? t = some value ↔ StartsBare t value :=
    fun _ _ => bareValue?_eq_some_iff
  refine ⟨pairwise_valueStarts key content, fun _ => mem_valueStarts_iff hkey, fun value => ?_, ?_⟩
  · rw [extract, Option.or_eq_some_iff, findSome?_valueStarts_eq_some_iff hkey hquoted,
      findSome?_valueStarts_eq_none_iff hkey hquoted, findSome?_valueStarts_eq_some_iff hkey hbare]
  · rw [extract, Option.or_eq_none_iff, findSome?_valueStarts_eq_none_iff hkey hquoted,
      findSome?_valueStarts_eq_none_iff hkey hbare]

/-- The second of two overlapping keys continues a word. Of the other two the second is quoted. -/
theorem search_misses_no_place_overlap :
    let key := "a-a".toList
    let content := "a-a-a=\"x\" a-a=é a-a=\"y\"".toList
    IsKey key ∧ valueStarts key content = [14, 21] ∧
      (∀ n, IsValueStart key content n ↔ n = 14 ∨ n = 21) ∧
      IsFirst StartsQuoted key content ['y'] := by
  intro key content
  have hkey : IsKey key := by decide +kernel
  have hstarts : valueStarts key content = [14, 21] := by decide +kernel
  have hextract : extract key content = some ['y'] := by decide +kernel
  obtain ⟨-, hplaces, hvalue, -⟩ := search_misses_no_place hkey content
  have hplace : ∀ n, IsValueStart key content n ↔ n = 14 ∨ n = 21 := fun n => by
    rw [← hplaces, hstarts]
    simp
  refine ⟨hkey, hstarts, hplace, ?_⟩
  rcases (hvalue ['y']).mp hextract with hfirst | ⟨habsent, -⟩
  · exact hfirst
  · have hquoted : StartsQuoted (Text.dropBytes 21 content) ['y'] :=
      quotedValue?_eq_some_iff.mp (by decide +kernel)
    exact absurd hquoted (habsent 21 ((hplace 21).mpr (Or.inr rfl)) ['y'])

end LinkTemplate.Attribute
