import LinkTemplate.Calendar.Offset
import LinkTemplate.Proofs.Slices.Attributes
import LinkTemplate.Proofs.Slices.Templates

/-!
# Nothing slices at fault

An offset token is sliced behind its sign, which has one byte, and in front of its last character,
by the number of bytes of it (`parseOffset?_eq`). With what the other modules of this folder say of
templates and attributes, none of these programs asks for a slice that does not exist, whatever the
text is (`no_slice_faults`).
-/

namespace LinkTemplate

namespace Checked

/-! ## Offset tokens -/

/-- Reads a sign, decimal digits and the letter of a unit, with nothing else around them. -/
def parseOffset? (token : Text) : Checked (Option Offset) :=
  match token.head?.bind Offset.sign? with
  | none => return none
  | some sign => do
    let rest ← sliceFrom 1 token
    match rest.getLast? with
    | none => return none
    | some letter =>
      match OffsetUnit.ofLetter? letter with
      | none => return none
      | some unit =>
        let stop ← subtract (Text.utf8Size rest) letter.utf8Size
        let digits ← sliceTo stop rest
        let amount := Text.ofDecimal digits
        return if digits ≠ [] ∧ digits.all Char.isDigit ∧ amount ≤ Offset.maxAmount then
          some ⟨sign * amount, unit⟩ else none

theorem utf8Size_of_sign? {c : Char} {sign : Int} (h : Offset.sign? c = some sign) :
    c.utf8Size = 1 := by
  unfold Offset.sign? at h
  split at h
  · rfl
  · rfl
  · cases h

theorem subtract_concat (t : Text) (c : Char) :
    subtract (Text.utf8Size (t ++ [c])) c.utf8Size = pure (Text.utf8Size t) := by
  have hsize : Text.utf8Size (t ++ [c]) = Text.utf8Size t + c.utf8Size := by simp
  rw [subtract, hsize, if_pos (Nat.le_add_left _ _), Nat.add_sub_cancel]

theorem parseOffset?_eq (token : Text) : parseOffset? token = pure (Offset.parse? token) := by
  cases token with
  | nil => rfl
  | cons c rest =>
    rw [parseOffset?, Offset.parse?, List.head?_cons, Option.bind_some]
    cases hsign : Offset.sign? c with
    | none => rfl
    | some sign =>
      have hrest : sliceFrom 1 (c :: rest) = pure rest := by
        have hslice := sliceFrom_append [c] rest
        rwa [Text.utf8Size_cons, utf8Size_of_sign? hsign] at hslice
      simp only [hrest, pure_bind]
      cases hlast : rest.getLast? with
      | none => rfl
      | some letter =>
        simp only [Option.bind_some]
        cases hunit : OffsetUnit.ofLetter? letter with
        | none => rfl
        | some unit =>
          obtain ⟨digits, rfl⟩ := List.getLast?_eq_some_iff.mp hlast
          simp only [subtract_concat, pure_bind, sliceTo_append, List.dropLast_concat]
          rfl

end Checked

open Text (IsBoundary)

/-- A slice exists if its two ends are in order and lie in the text, each between two characters or
at an end. The search for placeholders, the expansion and the diagnosis of a template, the search
for a key and what is extracted for it, the search for quoted values, and the reading of an offset
token ask for no other slice : with every slice of its own checked, each has a result for every
input, and it is the same as without. -/
theorem no_slice_faults :
    (∀ start stop t, (∃ part, Checked.slice start stop t = .ok part) ↔
      start ≤ stop ∧ IsBoundary start t ∧ IsBoundary stop t) ∧
    (∀ template, Checked.spans template = .ok (Template.spans template)) ∧
    (∀ template inputs, Checked.expand template inputs = .ok (expand template inputs)) ∧
    (∀ template, Checked.problems template = .ok (Template.problems template)) ∧
    (∀ key content, Checked.valueStarts key content = .ok (Attribute.valueStarts key content)) ∧
    (∀ key content, Checked.extract key content = .ok (Attribute.extract key content)) ∧
    (∀ content, Checked.quotedValues content = .ok (Attribute.quotedValues content)) ∧
    ∀ token, Checked.parseOffset? token = .ok (Offset.parse? token) := by
  refine ⟨fun start stop t => ?_, Checked.spans_eq, Checked.expand_eq, Checked.problems_eq,
    Checked.valueStarts_eq, Checked.extract_eq, Checked.quotedValues_eq, Checked.parseOffset?_eq⟩
  exact Checked.exists_slice_eq_iff.trans Text.hasSlice_iff

end LinkTemplate
