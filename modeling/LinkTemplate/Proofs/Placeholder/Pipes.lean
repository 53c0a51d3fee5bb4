import LinkTemplate.Diagnosis
import LinkTemplate.Proofs.Placeholder.Segments
import LinkTemplate.Proofs.Placeholder.QuotedValues

/-!
# Pipes of an accepted placeholder

The segments of a placeholder are cut with every quote counted, while its diagnosis knows the
quotes of quoted values and lets the others pass behind a backslash. Where a pipe starts a segment
then depends on the loose quotes in front of it, those that belong to no quoted value
(`startsSegment_iff_looseQuotes`). The two readings agree on a pipe exactly if a backslash stands
directly before it or those loose quotes are even in number, so behind an odd number of them a
placeholder is accepted and loses its modifiers.
-/

namespace LinkTemplate

open Segment Attribute

/-- A placeholder without defects has no stray quote. -/
theorem hasStrayQuote_of_defects {content : Text} (h : Template.defects content = []) :
    hasStrayQuote content = false := by
  rw [Template.defects, List.append_eq_nil_iff] at h
  cases hstray : hasStrayQuote content with
  | false => rfl
  | true => simp [hstray] at h

/-- A pipe starts a segment if no backslash stands directly before it and the loose quotes in
front of it make up for its being quoted or not. -/
theorem startsSegment_iff_looseQuotes (front back : Text) :
    StartsSegment front back ↔ front.getLast? ≠ some '\\' ∧
      (isQuoted (front ++ '|' :: back) (Text.utf8Size front) = true ↔
        Odd (looseQuotes (front ++ '|' :: back) front)) := by
  have hpipe : '|' ≠ '"' := by decide
  rw [startsSegment_iff, and_comm, Nat.even_iff, count_quote_mod_two front hpipe back, Nat.odd_iff]
  refine and_congr_right fun _ => ?_
  cases isQuoted (front ++ '|' :: back) (Text.utf8Size front) with
  | true =>
    rw [if_pos rfl]
    simp only [true_iff]
    omega
  | false =>
    rw [if_neg Bool.false_ne_true]
    simp only [Bool.false_eq_true, false_iff]
    omega

/-- In a placeholder without defects, every quote that belongs to no quoted value stands behind a
backslash. A pipe that stands behind no backslash starts a segment if it is outside the quoted
values and the number of loose quotes in front of it is even, or inside one and the number is odd.
So the pipes that start a segment are those outside the quoted values and behind no backslash,
except where a pipe that is behind no backslash has an odd number of loose quotes in front. -/
theorem pipe_of_accepted {content front back : Text} (haccepted : Template.defects content = [])
    (hcontent : content = front ++ '|' :: back) :
    (∀ before after, content = before ++ '"' :: after →
      isQuoted content (Text.utf8Size before) = false → before.getLast? = some '\\') ∧
    (StartsSegment front back ↔ front.getLast? ≠ some '\\' ∧
      (isQuoted content (Text.utf8Size front) = true ↔ Odd (looseQuotes content front))) ∧
    ((StartsSegment front back ↔
        isQuoted content (Text.utf8Size front) = false ∧ front.getLast? ≠ some '\\') ↔
      front.getLast? = some '\\' ∨ Even (looseQuotes content front)) := by
  have hstarts := startsSegment_iff_looseQuotes front back
  rw [← hcontent] at hstarts
  refine ⟨?_, hstarts, ?_⟩
  · intro before after hquote houtside
    have hstray := (hasStrayQuote_eq_false_iff content).mp (hasStrayQuote_of_defects haccepted)
    rcases hstray before after hquote with hquoted | hslash
    · rw [houtside] at hquoted
      exact absurd hquoted Bool.false_ne_true
    · exact hslash
  · rw [hstarts, ← Nat.not_odd_iff_even]
    by_cases hslash : front.getLast? = some '\\'
    · simp [hslash]
    · cases isQuoted content (Text.utf8Size front) <;> simp [hslash]

/-- Two quotes behind backslashes leave the next pipe to start a segment, one does not : the
modifier becomes part of the base, and the placeholder has none. -/
theorem pipe_of_accepted_escaped :
    let twice := "search \\\"x\\\" ".toList
    let once := "argument name=a\\\" ".toList
    let back := " percent-encode".toList
    (Template.defects (twice ++ '|' :: back) = [] ∧ StartsSegment twice back) ∧
      Template.defects (once ++ '|' :: back) = [] ∧
      isQuoted (once ++ '|' :: back) (Text.utf8Size once) = false ∧ ¬StartsSegment once back ∧
      Placeholder.parse (once ++ '|' :: back) =
        .ok ⟨.argument "a\\\"".toList none none, []⟩ := by
  intro twice once back
  have htwice : Template.defects (twice ++ '|' :: back) = [] := by decide +kernel
  have honce : Template.defects (once ++ '|' :: back) = [] := by decide +kernel
  have heven : looseQuotes (twice ++ '|' :: back) twice = 2 := by decide +kernel
  have hodd : looseQuotes (once ++ '|' :: back) once = 1 := by decide +kernel
  have houtside : isQuoted (once ++ '|' :: back) (Text.utf8Size once) = false := by
    decide +kernel
  obtain ⟨-, -, hagree⟩ := pipe_of_accepted htwice rfl
  obtain ⟨-, hstarts, -⟩ := pipe_of_accepted honce rfl
  have hboth := hagree.mpr (Or.inr (heven ▸ even_two))
  refine ⟨⟨htwice, hboth.mpr (by decide +kernel)⟩, honce, houtside, ?_, by decide +kernel⟩
  rw [hstarts, houtside, hodd]
  simp

/-- A pipe outside every quoted value and behind no backslash can fail to start a segment of an
accepted placeholder. -/
theorem accepted_pipe_lost :
    ¬∀ content front back : Text, Template.defects content = [] → content = front ++ '|' :: back →
      (StartsSegment front back ↔
        isQuoted content (Text.utf8Size front) = false ∧ front.getLast? ≠ some '\\') := by
  intro h
  let front := "argument name=a\\\" ".toList
  let back := " percent-encode".toList
  have haccepted : Template.defects (front ++ '|' :: back) = [] := by decide +kernel
  have houtside : isQuoted (front ++ '|' :: back) (Text.utf8Size front) = false ∧
      front.getLast? ≠ some '\\' := by
    decide +kernel
  have hlost : ¬StartsSegment front back := by decide +kernel
  exact hlost ((h _ front back haccepted rfl).mpr houtside)

end LinkTemplate
