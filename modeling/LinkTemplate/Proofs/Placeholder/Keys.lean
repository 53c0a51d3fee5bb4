import LinkTemplate.Placeholder.Printer
import LinkTemplate.Placeholder.Attribute

/-!
# Where a key occurs

`behindKey` reads a text once, character by character and without positions, and gives the text
behind each `key=` whose key does not continue a word. The search for a key skips the occurrences
that overlap an earlier one, but a skipped one continues a word, so for a key of key characters
nothing is lost (`map_dropBytes_valueStarts`). Whatever `extract` finds can then be said of
`behindKey` (`extract_eq`), which goes through a text part by part : a character that is neither
in the key nor its `=` separates what is found on its two sides (`behindKey_append_cons`).

Reading a key from printed attributes is looking it up (`extract_printAttributes`).
-/

namespace LinkTemplate

namespace Text

/-- A start that has no `x` ends in front of the first `x`. -/
theorem afterStart?_append_cons {start : Text} {x : Char} (h : x ∉ start) (s t : Text) :
    afterStart? start (s ++ x :: t) = (afterStart? start s).map (· ++ x :: t) := by
  induction start generalizing s with
  | nil => rfl
  | cons p start ih =>
    simp only [List.mem_cons, not_or] at h
    cases s with
    | nil => simp [afterStart?, Ne.symm h.1]
    | cons c s =>
      by_cases hc : p = c
      · simpa [afterStart?, hc] using ih h.2 s
      · simp [afterStart?, hc]

theorem afterStart?_append_left (s start t : Text) :
    afterStart? (s ++ start) (s ++ t) = afterStart? start t := by
  induction s with
  | nil => rfl
  | cons c s ih => simpa [afterStart?] using ih

theorem getLast?_cons_or (c : Char) (t : Text) (before? : Option Char) :
    (c :: t).getLast?.or before? = t.getLast?.or (some c) := by
  rw [List.getLast?_cons]
  cases t.getLast? <;> rfl

end Text

namespace Attribute

/-! ## One pass -/

/-- A key behind the character would continue a word. -/
def continuesWord (before? : Option Char) : Bool :=
  (before?.map isKeyChar).getD false

/-- The texts behind each `key=` of a text that stands behind the character `before?`, where the
key does not continue a word. -/
def behindKey (key : Text) (before? : Option Char) : Text → List Text
  | [] => []
  | c :: rest =>
    (if continuesWord before? then none
      else Text.afterStart? (key ++ ['=']) (c :: rest)).toList ++ behindKey key (some c) rest

/-- All characters of the text are key characters. -/
def IsKey (key : Text) : Prop :=
  ∀ c ∈ key, isKeyChar c = true

instance (key : Text) : Decidable (IsKey key) :=
  List.decidableBAll (fun c => isKeyChar c = true) key

/-- At an occurrence of the key the search finds the place behind its `=`, if one follows and the
key does not continue a word. -/
theorem valueStart?_append (key front rest : Text) :
    valueStart? key (front ++ (key ++ rest)) (Text.utf8Size front) =
      if continuesWord front.getLast? = false ∧ rest.head? = some '=' then
        some (Text.utf8Size (front ++ (key ++ ['='])))
      else none := by
  have hafter : Text.dropBytes (Text.utf8Size front + Text.utf8Size key)
      (front ++ (key ++ rest)) = rest := by
    rw [← Text.utf8Size_append, ← List.append_assoc, Text.dropBytes_utf8Size_append]
  have hsize : Text.utf8Size (front ++ (key ++ ['='])) =
      Text.utf8Size front + Text.utf8Size key + 1 := by
    rw [Text.utf8Size_append, Text.utf8Size_append, ← Nat.add_assoc]
    rfl
  rw [valueStart?, Text.takeBytes_utf8Size_append, hafter, hsize, ← continuesWord]
  simp

/-- What the search finds at an occurrence of the key is what stands behind its `=`. -/
theorem map_valueStart? (key front rest : Text) :
    (valueStart? key (front ++ (key ++ rest)) (Text.utf8Size front)).map
        (Text.dropBytes · (front ++ (key ++ rest))) =
      if continuesWord front.getLast? then none
      else Text.afterStart? (key ++ ['=']) (key ++ rest) := by
  rw [valueStart?_append, Text.afterStart?_append_left]
  cases hword : continuesWord front.getLast? with
  | true => simp
  | false =>
    cases rest with
    | nil => simp [Text.afterStart?]
    | cons d rest =>
      by_cases hd : d = '='
      · subst hd
        have happend : front ++ (key ++ '=' :: rest) = front ++ (key ++ ['=']) ++ rest := by simp
        have hdrop := Text.dropBytes_utf8Size_append (front ++ (key ++ ['='])) rest
        rw [← happend] at hdrop
        rw [if_pos ⟨rfl, rfl⟩, Option.map_some, hdrop]
        rfl
      · simp [Text.afterStart?, hd, Ne.symm hd]

/-- The texts behind the occurrences that the search finds from a place on. The next `skip`
characters belong to an occurrence that is already found, so a key that starts at one of them
would continue a word. -/
theorem map_dropBytes_occurrencesFrom {key : Text} (hkey : IsKey key) (front text : Text)
    (skip : Nat) (hskip : skip = 0 ∨ continuesWord front.getLast? = true ∧
      ∃ pending rest, text = pending ++ rest ∧ pending.length = skip ∧ IsKey pending) :
    ((occurrencesFrom key (Text.utf8Size front) skip text).filterMap
        (valueStart? key (front ++ text))).map (Text.dropBytes · (front ++ text)) =
      behindKey key front.getLast? text := by
  induction text generalizing front skip with
  | nil =>
    by_cases hnil : key = []
    · subst hnil
      have hnone : valueStart? [] front (Text.utf8Size front) = none := by
        have hmap := map_valueStart? [] front []
        simpa [Text.afterStart?] using hmap
      simp [occurrencesFrom, behindKey, hnone]
    · simp [occurrencesFrom, behindKey, hnil]
  | cons c rest ih =>
    have hnext : Text.utf8Size front + c.utf8Size = Text.utf8Size (front ++ [c]) := by simp
    have hlast : (front ++ [c]).getLast? = some c := List.getLast?_concat
    have happend : front ++ c :: rest = front ++ [c] ++ rest := by simp
    cases skip with
    | succ skip =>
      obtain hzero | ⟨hword, pending, after, htext, hlength, hpending⟩ := hskip
      · exact absurd hzero (Nat.succ_ne_zero skip)
      cases pending with
      | nil => simp at hlength
      | cons d pending =>
        obtain ⟨rfl, rfl⟩ := List.cons.inj htext
        have hrest := ih (front ++ [c]) skip (Or.inr ⟨?_, pending, after, rfl, ?_, ?_⟩)
        · rw [hlast] at hrest
          rw [occurrencesFrom, behindKey, hword, if_pos rfl, hnext, happend, hrest]
          rfl
        · rw [hlast]
          exact hpending c List.mem_cons_self
        · simpa using hlength
        · exact fun d hd => hpending d (List.mem_cons_of_mem _ hd)
    | zero =>
      rw [occurrencesFrom, behindKey, hnext, happend]
      split
      · next hprefix =>
        obtain ⟨after, hafter⟩ := List.isPrefixOf_iff_prefix.mp hprefix
        have hhead := map_valueStart? key front after
        rw [hafter, happend] at hhead
        have hpending : key.length - 1 = 0 ∨ continuesWord (front ++ [c]).getLast? = true ∧
            ∃ pending rest', rest = pending ++ rest' ∧ pending.length = key.length - 1 ∧
              IsKey pending := by
          cases key with
          | nil => exact Or.inl rfl
          | cons k key =>
            obtain ⟨rfl, rfl⟩ := List.cons.inj hafter
            refine Or.inr ⟨?_, key, after, rfl, rfl, fun d hd => hkey d (List.mem_cons_of_mem _ hd)⟩
            rw [hlast]
            exact hkey k List.mem_cons_self
        have hrest := ih (front ++ [c]) (key.length - 1) hpending
        rw [hlast] at hrest
        rw [← hhead, ← hrest]
        cases hstart : valueStart? key (front ++ [c] ++ rest) (Text.utf8Size front) with
        | none => rw [List.filterMap_cons_none hstart]; rfl
        | some start => rw [List.filterMap_cons_some hstart]; rfl
      · next hprefix =>
        have hnone : Text.afterStart? (key ++ ['=']) (c :: rest) = none := by
          rw [Option.eq_none_iff_forall_ne_some]
          intro after hafter
          rw [Text.afterStart?_eq_some_iff, List.append_assoc] at hafter
          exact hprefix (List.isPrefixOf_iff_prefix.mpr ⟨_, hafter.symm⟩)
        have hrest := ih (front ++ [c]) 0 (Or.inl rfl)
        rw [hlast] at hrest
        rw [hnone, ite_self, hrest]
        rfl

/-- The texts that `extract` reads values from are those behind each `key=`. -/
theorem map_dropBytes_valueStarts {key : Text} (hkey : IsKey key) (content : Text) :
    (valueStarts key content).map (Text.dropBytes · content) = behindKey key none content :=
  map_dropBytes_occurrencesFrom hkey [] content 0 (Or.inl rfl)

theorem extract_eq {key : Text} (hkey : IsKey key) (content : Text) :
    extract key content = ((behindKey key none content).findSome? quotedValue?).or
      ((behindKey key none content).findSome? bareValue?) := by
  rw [extract, map_dropBytes_valueStarts hkey]

/-! ## Part by part -/

/-- A character that is neither in the key nor its `=` separates what is behind the key in front
of it from what is behind the key behind it. -/
theorem behindKey_append_cons {key : Text} {x : Char} (hx : x ∉ key ++ ['='])
    (before? : Option Char) (s t : Text) :
    behindKey key before? (s ++ x :: t) =
      (behindKey key before? s).map (· ++ x :: t) ++ behindKey key (some x) t := by
  induction s generalizing before? with
  | nil =>
    have hnone : Text.afterStart? (key ++ ['=']) (x :: t) = none := by
      have happend := Text.afterStart?_append_cons hx [] t
      cases key <;> simpa [Text.afterStart?] using happend
    simp [behindKey, hnone]
  | cons c s ih =>
    have happend := Text.afterStart?_append_cons hx (c :: s) t
    rw [List.cons_append] at happend ⊢
    rw [behindKey, behindKey, ih, happend]
    cases continuesWord before? <;>
      cases Text.afterStart? (key ++ ['=']) (c :: s) <;> simp

/-- What stands behind the key is behind a `key=` of the text. -/
theorem exists_append_of_mem_behindKey {key r t : Text} {before? : Option Char}
    (h : r ∈ behindKey key before? t) :
    ∃ front, t = front ++ (key ++ '=' :: r) ∧
      continuesWord (front.getLast?.or before?) = false := by
  induction t generalizing before? with
  | nil => simp [behindKey] at h
  | cons c t ih =>
    rw [behindKey, List.mem_append, Option.mem_toList] at h
    rcases h with h | h
    · cases hword : continuesWord before? with
      | true => simp [hword] at h
      | false =>
        have hafter : Text.afterStart? (key ++ ['=']) (c :: t) = some r := by
          simpa [hword] using h
        rw [Text.afterStart?_eq_some_iff] at hafter
        exact ⟨[], by simpa using hafter, hword⟩
    · obtain ⟨front, rfl, hword⟩ := ih h
      exact ⟨c :: front, rfl, by rwa [Text.getLast?_cons_or]⟩

theorem mem_behindKey_append {key r front : Text} {before? : Option Char}
    (h : continuesWord (front.getLast?.or before?) = false) :
    r ∈ behindKey key before? (front ++ (key ++ '=' :: r)) := by
  induction front generalizing before? with
  | nil =>
    have hword : continuesWord before? = false := h
    have hafter : Text.afterStart? (key ++ ['=']) (key ++ '=' :: r) = some r :=
      Text.afterStart?_eq_some_iff.mpr (by simp)
    obtain ⟨c, rest, hcons⟩ : ∃ c rest, key ++ '=' :: r = c :: rest :=
      List.exists_cons_of_ne_nil (by simp)
    rw [List.nil_append, hcons, behindKey, ← hcons, hword, hafter]
    simp
  | cons c front ih =>
    rw [Text.getLast?_cons_or] at h
    rw [List.cons_append, behindKey]
    exact List.mem_append_right _ (ih h)

/-! ## Mentions -/

/-- The text holds the key and its `=`, where the key does not continue a word. -/
def Mentions (key t : Text) : Prop :=
  ∃ front back, t = front ++ (key ++ '=' :: back) ∧ continuesWord front.getLast? = false

theorem mentions_of_mem_behindKey {key r t : Text} {before? : Option Char}
    (h : r ∈ behindKey key before? t) : Mentions key t := by
  obtain ⟨front, ht, hword⟩ := exists_append_of_mem_behindKey h
  refine ⟨front, r, ht, ?_⟩
  cases hlast : front.getLast? with
  | none => rfl
  | some c => simpa [hlast] using hword

theorem behindKey_eq_nil {key t : Text} (h : ¬Mentions key t) (before? : Option Char) :
    behindKey key before? t = [] :=
  List.eq_nil_iff_forall_not_mem.mpr fun _ hr => h (mentions_of_mem_behindKey hr)

theorem infix_of_mentions {key t : Text} (h : Mentions key t) : key ++ ['='] <:+: t := by
  obtain ⟨front, back, rfl, -⟩ := h
  exact ⟨front, back, by simp⟩

/-! ## Printed attributes -/

theorem isKeyChar_ne {c x : Char} (hc : isKeyChar c = true) (hx : isKeyChar x = false) : c ≠ x := by
  rintro rfl
  rw [hc] at hx
  exact Bool.noConfusion hx

theorem not_isKeyChar_equals : isKeyChar '=' = false := by decide

/-- A word with a `=` behind it starts with the key and its `=` only if the word is the key. -/
theorem afterStart?_word {key word : Text} (hkey : IsKey key) (hword : IsKey word) (rest : Text) :
    Text.afterStart? (key ++ ['=']) (word ++ '=' :: rest) =
      if word = key then some rest else none := by
  induction key generalizing word with
  | nil =>
    cases word with
    | nil => simp [Text.afterStart?]
    | cons c word =>
      have hc := isKeyChar_ne (hword c List.mem_cons_self) not_isKeyChar_equals
      simp [Text.afterStart?, Ne.symm hc]
  | cons k key ih =>
    have hk := isKeyChar_ne (hkey k List.mem_cons_self) not_isKeyChar_equals
    cases word with
    | nil => simp [Text.afterStart?, hk]
    | cons c word =>
      have hrest := ih (fun d hd => hkey d (List.mem_cons_of_mem _ hd))
        (fun d hd => hword d (List.mem_cons_of_mem _ hd))
      by_cases hc : k = c
      · simp [Text.afterStart?, hc, hrest]
      · simp [Text.afterStart?, hc, Ne.symm hc]

/-- In a word with a `=` behind it, the key can only be the whole word. -/
theorem behindKey_word {key word : Text} (hkey : IsKey key) (hword : IsKey word)
    (before? : Option Char) :
    behindKey key before? (word ++ ['=']) =
      if continuesWord before? = false ∧ word = key then [[]] else [] := by
  induction word generalizing before? with
  | nil =>
    have hstart := afterStart?_word hkey hword []
    rw [List.nil_append] at hstart ⊢
    rw [behindKey, hstart, behindKey]
    cases continuesWord before? <;> by_cases hnil : ([] : Text) = key <;> simp [hnil]
  | cons c word ih =>
    have hstart := afterStart?_word hkey hword []
    have hc : continuesWord (some c) = true := hword c List.mem_cons_self
    rw [List.cons_append] at hstart ⊢
    rw [behindKey, hstart, ih (fun d hd => hword d (List.mem_cons_of_mem _ hd)), hc]
    cases continuesWord before? <;> by_cases hnil : c :: word = key <;> simp [hnil]

/-- Neither a blank nor a quote is part of a key and its `=`. -/
theorem notMem_key {key : Text} (hkey : IsKey key) {x : Char} (hx : isKeyChar x = false)
    (hne : x ≠ '=') : x ∉ key ++ ['='] := by
  rw [List.mem_append, List.mem_singleton, not_or]
  exact ⟨fun hmem => isKeyChar_ne (hkey x hmem) hx rfl, hne⟩

theorem behindKey_printAttribute {key word value : Text} (hkey : IsKey key) (hword : IsKey word)
    (hvalue : ¬Mentions key value) (before? : Option Char) (t : Text) :
    behindKey key before? (Placeholder.printAttribute word value ++ t) =
      (if word = key then ['"' :: (value ++ '"' :: t)] else []) ++
        behindKey key (some '"') t := by
  have hblank : ' ' ∉ key ++ ['='] := notMem_key hkey (by decide) (by decide)
  have hquote : '"' ∉ key ++ ['='] := notMem_key hkey (by decide) (by decide)
  have hprint : Placeholder.printAttribute word value ++ t =
      [] ++ ' ' :: (word ++ ['='] ++ '"' :: (value ++ '"' :: t)) := by
    simp [Placeholder.printAttribute]
  have hspace : continuesWord (some ' ') = false := by decide
  rw [hprint, behindKey_append_cons hblank, behindKey_append_cons hquote,
    behindKey_append_cons hquote, behindKey_eq_nil hvalue, behindKey_word hkey hword, hspace]
  by_cases h : word = key <;> simp [h, behindKey]

theorem quotedValue?_append {value : Text} (h : '"' ∉ value) (rest : Text) :
    quotedValue? ('"' :: (value ++ '"' :: rest)) = some value := by
  simp [quotedValue?, Text.cut?_append h]

theorem exists_append_of_quotedValue? {t value : Text} (h : quotedValue? t = some value) :
    ∃ rest, t = '"' :: (value ++ '"' :: rest) ∧ '"' ∉ value := by
  unfold quotedValue? at h
  split at h
  · obtain ⟨⟨front, rest⟩, hcut, rfl⟩ := Option.map_eq_some_iff.mp h
    obtain ⟨rfl, hquote⟩ := Text.eq_of_cut? hcut
    exact ⟨rest, rfl, hquote⟩
  · cases h

/-- Attributes as they are printed, behind one another. -/
def printAttributes (attributes : List (Text × Text)) : Text :=
  attributes.flatMap fun a => Placeholder.printAttribute a.1 a.2

/-- The key and the value of an attribute, printed, do not hide the attributes around it from a
search for `key`. -/
structure Readable (key : Text) (a : Text × Text) : Prop where
  isKey : IsKey a.1
  quote_notMem : '"' ∉ a.2
  not_mentions : ¬Mentions key a.2

theorem findSome?_behindKey_printAttributes {key : Text} (hkey : IsKey key)
    {attributes : List (Text × Text)} (h : ∀ a ∈ attributes, Readable key a)
    (before? : Option Char) :
    (behindKey key before? (printAttributes attributes)).findSome? quotedValue? =
        attributes.lookup key ∧
      (attributes.lookup key = none → behindKey key before? (printAttributes attributes) = []) := by
  induction attributes generalizing before? with
  | nil => simp [printAttributes, behindKey]
  | cons a attributes ih =>
    obtain ⟨word, value⟩ := a
    obtain ⟨hword, hquote, hmentions⟩ := h _ List.mem_cons_self
    have hrest := ih (fun a ha => h a (List.mem_cons_of_mem _ ha)) (some '"')
    have hprint :=
      behindKey_printAttribute hkey hword hmentions before? (printAttributes attributes)
    rw [printAttributes, List.flatMap_cons, ← printAttributes, hprint, List.lookup_cons]
    by_cases hne : word = key
    · subst hne
      simp [quotedValue?_append hquote]
    · simpa [hne, beq_eq_false_iff_ne.mpr (Ne.symm hne)] using hrest

/-- A text without the key in front of printed attributes makes no difference. -/
theorem behindKey_append_printAttributes {key base : Text} (hkey : IsKey key)
    (hbase : ¬Mentions key base) (attributes : List (Text × Text)) :
    behindKey key none (base ++ printAttributes attributes) =
      behindKey key none (printAttributes attributes) := by
  cases attributes with
  | nil => simp [printAttributes, behindKey, behindKey_eq_nil hbase]
  | cons a attributes =>
    have hblank : ' ' ∉ key ++ ['='] := notMem_key hkey (by decide) (by decide)
    obtain ⟨t, ht⟩ : ∃ t, printAttributes (a :: attributes) = ' ' :: t := ⟨_, rfl⟩
    have hnil := behindKey_append_cons hblank none [] t
    rw [List.nil_append] at hnil
    rw [ht, behindKey_append_cons hblank, hnil, behindKey_eq_nil hbase]
    rfl

/-- Reading a key from printed attributes is looking it up. -/
theorem extract_printAttributes {key base : Text} (hkey : IsKey key) (hbase : ¬Mentions key base)
    {attributes : List (Text × Text)} (h : ∀ a ∈ attributes, Readable key a) :
    extract key (base ++ printAttributes attributes) = attributes.lookup key := by
  obtain ⟨hlookup, hnone⟩ := findSome?_behindKey_printAttributes hkey h none
  rw [extract_eq hkey, behindKey_append_printAttributes hkey hbase, hlookup]
  cases hvalue : attributes.lookup key with
  | some value => rfl
  | none => rw [hnone hvalue]; rfl

end Attribute

end LinkTemplate
