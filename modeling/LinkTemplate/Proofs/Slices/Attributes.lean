import LinkTemplate.Proofs.Effects
import LinkTemplate.Proofs.Placeholder.KeyPlaces
import LinkTemplate.Proofs.Placeholder.QuotedSearch
import LinkTemplate.Proofs.Slices.Checked

/-!
# Slices of attributes

The search for a key slices in front of each of its occurrences and behind it. An occurrence takes
the text apart, whatever the characters of the key are and also if it has none, so these are slices
(`valueStart?_eq`). What stands behind a `=` is sliced from there on and up to a quote in it
(`findValue_eq`).

The search for quoted values slices where a round starts, in front of the next `=` with a quote
behind it and behind that quote. A round that starts between two characters goes well
(`searchRound_eq`). One that goes well starts in front of the end, and the next one starts further
on and between two characters (`of_searchRound`), so all rounds go well and there is a last one.
-/

namespace LinkTemplate.Checked

open Text (IsBoundary)
open Attribute (continuesWord QuotedValue)

/-! ## One key -/

/-- The position behind the `=` of an occurrence of `key`, unless the key is the end of a longer
word or no `=` follows. -/
def valueStart? (key content : Text) (position : Nat) : Checked (Option Nat) := do
  let after := position + Text.utf8Size key
  let front ← sliceTo position content
  if continuesWord front.getLast? then return none
  else
    let behind ← sliceFrom after content
    return if behind.head? = some '=' then some (after + 1) else none

/-- The positions behind each `key=` in `content`. -/
def valueStarts (key content : Text) : Checked (List Nat) := do
  let starts ← (Attribute.occurrences key content).mapM (valueStart? key content)
  return starts.filterMap id

/-- The quoted value at a position. -/
def quotedValue? (content : Text) (start : Nat) : Checked (Option Text) := do
  match ← sliceFrom start content with
  | '"' :: rest =>
    match Text.find? ['"'] rest with
    | some length => return some (← sliceTo length rest)
    | none => return none
  | _ => return none

/-- The unquoted value at a position. -/
def bareValue? (content : Text) (start : Nat) : Checked (Option Text) := do
  return Attribute.bareValue? (← sliceFrom start content)

/-- The first value behind a `key=` in `content`. It is read at every position, also behind the
first that has one. -/
def findValue (read : Text → Nat → Checked (Option Text)) (key content : Text) :
    Checked (Option Text) := do
  let starts ← valueStarts key content
  let values ← starts.mapM (read content)
  return values.findSome? id

/-- The value of `key` in `content`. -/
def extract (key content : Text) : Checked (Option Text) := do
  let quoted ← findValue quotedValue? key content
  let bare ← findValue bareValue? key content
  return quoted.or bare

theorem valueStart?_eq {key content : Text} {position : Nat}
    (h : position ∈ Attribute.occurrences key content) :
    valueStart? key content position = pure (Attribute.valueStart? key content position) := by
  obtain ⟨front, rest, rfl, rfl⟩ := Attribute.exists_append_of_mem_occurrencesFrom h
  have hbehind : sliceFrom (Text.utf8Size front + Text.utf8Size key) (front ++ (key ++ rest)) =
      pure rest := by
    rw [← Text.utf8Size_append, ← List.append_assoc, sliceFrom_append]
  rw [Nat.zero_add, Attribute.valueStart?_append, valueStart?, sliceTo_append, pure_bind]
  cases hword : continuesWord front.getLast? with
  | true => simp
  | false =>
    have hstop : Text.utf8Size (front ++ (key ++ ['='])) =
        Text.utf8Size front + Text.utf8Size key + 1 := by
      simp [Nat.add_assoc]
    simp [hbehind, hstop]

theorem valueStarts_eq (key content : Text) :
    valueStarts key content = pure (Attribute.valueStarts key content) := by
  rw [valueStarts, mapM_eq_pure_map fun _ => valueStart?_eq, pure_bind, Attribute.valueStarts,
    List.filterMap_map, Function.id_comp]

theorem isBoundary_of_mem_valueStarts {key content : Text} {start : Nat}
    (h : start ∈ Attribute.valueStarts key content) : IsBoundary start content := by
  obtain ⟨front, behind, rfl, -, rfl⟩ := Attribute.isValueStart_of_mem h
  exact Text.isBoundary_iff.mpr ⟨front ++ (key ++ ['=']), behind, by simp, rfl⟩

theorem quotedValue?_eq {content : Text} {start : Nat} (h : IsBoundary start content) :
    quotedValue? content start = pure (Attribute.quotedValue? (Text.dropBytes start content)) := by
  obtain ⟨front, behind, rfl, rfl⟩ := Text.isBoundary_iff.mp h
  rw [quotedValue?, sliceFrom_append, pure_bind, Text.dropBytes_utf8Size_append]
  split
  · next rest =>
    rw [Text.find?_singleton, Attribute.quotedValue?]
    cases hcut : Text.cut? '"' rest with
    | none => rw [Option.map_none, Option.map_none]
    | some p =>
      obtain ⟨rfl, -⟩ := Text.eq_of_cut? hcut
      simp [sliceTo_append]
  · next hquote =>
    rw [Attribute.quotedValue?]
    exact hquote

theorem bareValue?_eq {content : Text} {start : Nat} (h : IsBoundary start content) :
    bareValue? content start = pure (Attribute.bareValue? (Text.dropBytes start content)) := by
  rw [bareValue?, sliceFrom_of_isBoundary h, pure_bind]

/-- A reading that slices nothing but what stands behind its position is done at each of them. -/
theorem findValue_eq {read : Text → Nat → Checked (Option Text)} {value? : Text → Option Text}
    {content : Text} (hread : ∀ {start}, IsBoundary start content →
      read content start = pure (value? (Text.dropBytes start content))) (key : Text) :
    findValue read key content = pure (((Attribute.valueStarts key content).map
      fun start => Text.dropBytes start content).findSome? value?) := by
  have hstart : ∀ start ∈ Attribute.valueStarts key content,
      read content start = pure (value? (Text.dropBytes start content)) :=
    fun _ h => hread (isBoundary_of_mem_valueStarts h)
  rw [findValue, valueStarts_eq, pure_bind, mapM_eq_pure_map hstart, pure_bind]
  simp [List.findSome?_map, Function.comp_def]

theorem extract_eq (key content : Text) :
    extract key content = pure (Attribute.extract key content) := by
  rw [extract, findValue_eq quotedValue?_eq, pure_bind, findValue_eq bareValue?_eq, pure_bind,
    Attribute.extract]

/-! ## All keys -/

/-- The position behind the first quote from a position on. -/
def behindQuote? (content : Text) (start : Nat) : Checked (Option Nat) := do
  let behind ← sliceFrom start content
  return (Text.find? ['"'] behind).map fun length => start + length + 1

/-- A round of the search for quoted values that starts at a position : the value it finds, if any,
and the position where the next round starts. There is no round if no `=` with a quote behind it is
left. -/
def searchRound (content : Text) (start : Nat) : Checked (Option (Option QuotedValue × Nat)) := do
  let behind ← sliceFrom start content
  match Text.find? ['=', '"'] behind with
  | none => return none
  | some offset =>
    let equals := start + offset
    let front ← sliceTo equals content
    match ← behindQuote? content (equals + 2) with
    | some stop =>
      if continuesWord front.getLast? then return some (some ⟨equals + 1, stop⟩, stop)
      else return some (none, equals + 2)
    | none => return some (none, equals + 2)

theorem behindQuote?_append (front behind : Text) :
    behindQuote? (front ++ behind) (Text.utf8Size front) =
      pure ((Text.cut? '"' behind).map fun p => Text.utf8Size front + Text.utf8Size p.1 + 1) := by
  rw [behindQuote?, sliceFrom_append, pure_bind, Text.find?_singleton, Option.map_map]
  rfl

/-- A search for a quote that goes well starts between two characters, and what it finds is further
on, between two characters. -/
theorem of_behindQuote? {content : Text} {start : Nat} {stop? : Option Nat}
    (h : behindQuote? content start = pure stop?) :
    IsBoundary start content ∧ ∀ stop ∈ stop?, start < stop ∧ IsBoundary stop content := by
  obtain ⟨behind, hbehind, -⟩ := bind_eq_ok_iff.mp h
  obtain ⟨front, rfl, rfl⟩ := exists_append_of_sliceFrom hbehind
  refine ⟨Text.isBoundary_utf8Size _ _, fun stop hstop => ?_⟩
  rw [behindQuote?_append] at h
  obtain rfl := Except.ok.inj h
  obtain ⟨⟨value, after⟩, hcut, rfl⟩ := Option.map_eq_some_iff.mp hstop
  obtain ⟨rfl, -⟩ := Text.eq_of_cut? hcut
  refine ⟨by omega, Text.isBoundary_iff.mpr ⟨front ++ value ++ ['"'], after, by simp, ?_⟩⟩
  simp [Nat.add_assoc]

/-- A round that goes well starts in front of the end, and the next one starts further on, between
two characters. -/
theorem of_searchRound {content : Text} {start next : Nat} {found? : Option QuotedValue}
    (h : searchRound content start = pure (some (found?, next))) :
    start < Text.utf8Size content ∧ start < next ∧ IsBoundary next content := by
  obtain ⟨behind, hbehind, h⟩ := bind_eq_ok_iff.mp h
  obtain ⟨front, rfl, rfl⟩ := exists_append_of_sliceFrom hbehind
  split at h
  · cases h
  · next offset hfind =>
    obtain ⟨skipped, rest, rfl, rfl, -⟩ := Attribute.exists_append_of_find?_eq_some hfind
    obtain ⟨_, -, h⟩ := bind_eq_ok_iff.mp h
    obtain ⟨stop?, hstop?, h⟩ := bind_eq_ok_iff.mp h
    obtain ⟨hopened, hstop⟩ := of_behindQuote? hstop?
    refine ⟨?_, ?_⟩
    · simp only [Text.utf8Size_append, Text.utf8Size_cons, Text.utf8Size_equals]
      omega
    · split at h
      · next stop =>
        obtain ⟨hlt, hboundary⟩ := hstop stop rfl
        split at h
        · cases h
          exact ⟨by omega, hboundary⟩
        · cases h
          exact ⟨by omega, hopened⟩
      · cases h
        exact ⟨by omega, hopened⟩

/-- The quoted values of a text from a round on. -/
def quotedValuesFrom (content : Text) (start : Nat) : Checked (List QuotedValue) :=
  match h : searchRound content start with
  | .error fault => throw fault
  | .ok none => pure []
  | .ok (some (found?, next)) => do
    have := of_searchRound h
    let later ← quotedValuesFrom content next
    return found?.toList ++ later
termination_by Text.utf8Size content - start
decreasing_by omega

/-- The quoted values of the `key="value"` pairs of a text, from left to right. -/
def quotedValues (content : Text) : Checked (List QuotedValue) :=
  quotedValuesFrom content 0

section Round

variable {content : Text} {start : Nat}

/-- A round that starts between two characters goes well, and finds what it finds without checks. -/
theorem searchRound_eq (h : IsBoundary start content) :
    searchRound content start = pure (Attribute.searchRound? content start) := by
  obtain ⟨front, behind, rfl, rfl⟩ := Text.isBoundary_iff.mp h
  rw [searchRound, sliceFrom_append, pure_bind]
  cases hfind : Text.find? ['=', '"'] behind with
  | none =>
    rw [Attribute.searchRound?, Text.dropBytes_utf8Size_append, hfind, Option.map_none]
  | some offset =>
    obtain ⟨skipped, rest, rfl, rfl, -⟩ := Attribute.exists_append_of_find?_eq_some hfind
    have hcontent : front ++ (skipped ++ '=' :: '"' :: rest) =
        front ++ skipped ++ '=' :: '"' :: rest := by simp
    have hquote : behindQuote? (front ++ skipped ++ '=' :: '"' :: rest)
        (Text.utf8Size (front ++ skipped) + 2) = pure ((Text.cut? '"' rest).map fun p =>
          Text.utf8Size (front ++ skipped) + 2 + Text.utf8Size p.1 + 1) := by
      have happend := behindQuote?_append (front ++ skipped ++ ['=', '"']) rest
      simpa [Nat.add_assoc] using happend
    have hdrop : Text.dropBytes (Text.utf8Size front) (front ++ (skipped ++ '=' :: '"' :: rest)) =
        skipped ++ '=' :: '"' :: rest := Text.dropBytes_utf8Size_append _ _
    rw [Attribute.searchRound?_eq (by rw [hdrop, hfind]) (Text.utf8Size_append _ _).symm hcontent]
    simp only [hcontent, ← Text.utf8Size_append, sliceTo_append, hquote, pure_bind]
    cases Text.cut? '"' rest with
    | none => rfl
    | some p =>
      have hstop : Text.utf8Size (front ++ skipped) + 2 + Text.utf8Size p.1 + 1 =
          Text.utf8Size (front ++ skipped) + 1 + Text.utf8Size p.1 + 2 := by omega
      simp only [Option.map_some, hstop]
      cases continuesWord (front ++ skipped).getLast? <;> rfl

theorem quotedValuesFrom_of_none (h : searchRound content start = pure none) :
    quotedValuesFrom content start = pure [] := by
  rw [quotedValuesFrom]
  split
  · next h' => cases h.symm.trans h'
  · rfl
  · next h' => cases h.symm.trans h'

theorem quotedValuesFrom_of_some {found? : Option QuotedValue} {next : Nat}
    (h : searchRound content start = pure (some (found?, next))) :
    quotedValuesFrom content start = do
      let later ← quotedValuesFrom content next
      return found?.toList ++ later := by
  rw [quotedValuesFrom]
  split
  · next h' => cases h.symm.trans h'
  · next h' => cases h.symm.trans h'
  · next h' =>
    cases h.symm.trans h'
    rfl

end Round

/-- Rounds that come to an end all go well. -/
theorem quotedValuesFrom_of_searchEnds {content : Text} {start : Nat} {vs : List QuotedValue}
    (h : Attribute.SearchEnds content start vs) (hstart : IsBoundary start content) :
    quotedValuesFrom content start = pure vs := by
  induction h with
  | done h => exact quotedValuesFrom_of_none (by rw [searchRound_eq hstart, h])
  | round h _ ih =>
    have hround := searchRound_eq hstart
    rw [h] at hround
    rw [quotedValuesFrom_of_some hround, ih (of_searchRound hround).2.2, pure_bind]

theorem quotedValues_eq (content : Text) :
    quotedValues content = pure (Attribute.quotedValues content) :=
  quotedValuesFrom_of_searchEnds (Attribute.searchEnds_quotedValuesFrom [] rfl)
    (Text.isBoundary_zero content)

end LinkTemplate.Checked
