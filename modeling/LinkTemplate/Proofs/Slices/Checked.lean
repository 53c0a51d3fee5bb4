import LinkTemplate.Proofs.Template.Matching

/-!
# Slices that may not exist

`Text.slice` has a result for any two positions, also for positions that are out of order, behind
the end of the text or inside a character. For those there is no slice (`Text.HasSlice`), and a
program in `Checked` that asks for one ends with a `Fault`. So a checked program that has a result
has asked only for slices that exist (`Checked.exists_slice_eq_iff`).

The other modules of this folder write the searches of this library down as loops over positions
in `Checked`, and prove that each finds what the search itself finds, for every input. To slice at
a position, one has to know what stands in front of it : every lemma here takes the text apart
there.
-/

namespace LinkTemplate

/-- What ends a program that works with positions. -/
inductive Fault where
  /-- A text has no slice between two positions. -/
  | slice (t : Text) (start stop : Nat)
  /-- A size is larger than the position that it is taken from. -/
  | subtraction (position size : Nat)
deriving DecidableEq, Repr

/-- A program that a fault may end. -/
abbrev Checked := Except Fault

/-! ## Slices that exist -/

namespace Text

/-- A text has a slice between two positions that are in order and lie in the text, each between
two characters or at an end. -/
structure HasSlice (start stop : Nat) (t : Text) : Prop where
  start_le_stop : start ≤ stop
  start_isBoundary : IsBoundary start t
  stop_isBoundary : IsBoundary stop t

theorem hasSlice_iff {start stop : Nat} {t : Text} :
    HasSlice start stop t ↔ start ≤ stop ∧ IsBoundary start t ∧ IsBoundary stop t :=
  ⟨fun h => ⟨h.start_le_stop, h.start_isBoundary, h.stop_isBoundary⟩,
    fun ⟨hle, hstart, hstop⟩ => ⟨hle, hstart, hstop⟩⟩

instance (n : Nat) (t : Text) : Decidable (IsBoundary n t) :=
  inferInstanceAs (Decidable (_ = _))

instance (start stop : Nat) (t : Text) : Decidable (HasSlice start stop t) :=
  decidable_of_iff _ hasSlice_iff.symm

theorem isBoundary_iff {n : Nat} {t : Text} :
    IsBoundary n t ↔ ∃ front back, t = front ++ back ∧ n = utf8Size front := by
  constructor
  · intro h
    exact ⟨takeBytes n t, dropBytes n t, (takeBytes_append_dropBytes n t).symm, h.symm⟩
  · rintro ⟨front, back, rfl, rfl⟩
    exact isBoundary_utf8Size front back

theorem isBoundary_zero (t : Text) : IsBoundary 0 t :=
  isBoundary_utf8Size [] t

end Text

/-! ## Checked slices -/

namespace Checked

open Text (IsBoundary HasSlice)

/-- The slice of a text between two positions. -/
def slice (start stop : Nat) (t : Text) : Checked Text :=
  if HasSlice start stop t then pure (Text.slice start stop t) else throw (.slice t start stop)

/-- The slice of a text from a position on. -/
def sliceFrom (start : Nat) (t : Text) : Checked Text :=
  slice start (Text.utf8Size t) t

/-- The slice of a text up to a position. -/
def sliceTo (stop : Nat) (t : Text) : Checked Text :=
  slice 0 stop t

/-- The position a number of bytes in front of another one. -/
def subtract (position size : Nat) : Checked Nat :=
  if size ≤ position then pure (position - size) else throw (.subtraction position size)

variable {start stop : Nat} {t : Text}

theorem slice_of_hasSlice (h : HasSlice start stop t) :
    slice start stop t = pure (Text.slice start stop t) :=
  if_pos h

theorem exists_slice_eq_iff : (∃ part, slice start stop t = pure part) ↔ HasSlice start stop t := by
  constructor
  · rintro ⟨part, h⟩
    rw [slice] at h
    split at h
    · assumption
    · cases h
  · intro h
    exact ⟨_, slice_of_hasSlice h⟩

/-- No slice ends inside a character. -/
example : slice 0 2 ['a', 'é'] = throw (.slice ['a', 'é'] 0 2) := by
  rfl

/-- The slice between the two ends of a middle part is that part. -/
theorem slice_append (front middle behind : Text) :
    slice (Text.utf8Size front) (Text.utf8Size front + Text.utf8Size middle)
      (front ++ (middle ++ behind)) = pure middle := by
  have hstop : IsBoundary (Text.utf8Size front + Text.utf8Size middle)
      (front ++ (middle ++ behind)) := by
    rw [← Text.utf8Size_append, ← List.append_assoc]
    exact Text.isBoundary_utf8Size _ _
  rw [slice_of_hasSlice ⟨Nat.le_add_right _ _, Text.isBoundary_utf8Size _ _, hstop⟩,
    Text.slice_append]

theorem sliceFrom_append (front behind : Text) :
    sliceFrom (Text.utf8Size front) (front ++ behind) = pure behind := by
  have hslice := slice_append front behind []
  rwa [List.append_nil, ← Text.utf8Size_append] at hslice

theorem sliceTo_append (front behind : Text) :
    sliceTo (Text.utf8Size front) (front ++ behind) = pure front := by
  have hslice := slice_append [] front behind
  rwa [Text.utf8Size_nil, Nat.zero_add, List.nil_append] at hslice

theorem sliceFrom_of_isBoundary (h : IsBoundary start t) :
    sliceFrom start t = pure (Text.dropBytes start t) := by
  obtain ⟨front, behind, rfl, rfl⟩ := Text.isBoundary_iff.mp h
  rw [sliceFrom_append, Text.dropBytes_utf8Size_append]

theorem sliceTo_of_isBoundary (h : IsBoundary stop t) :
    sliceTo stop t = pure (Text.takeBytes stop t) := by
  obtain ⟨front, behind, rfl, rfl⟩ := Text.isBoundary_iff.mp h
  rw [sliceTo_append, Text.takeBytes_utf8Size_append]

/-- A slice from a position on, if there is one, is what stands behind that position. -/
theorem exists_append_of_sliceFrom {behind : Text} (h : sliceFrom start t = pure behind) :
    ∃ front, t = front ++ behind ∧ start = Text.utf8Size front := by
  have hstart := (exists_slice_eq_iff.mp ⟨behind, h⟩).start_isBoundary
  obtain ⟨front, behind', rfl, rfl⟩ := Text.isBoundary_iff.mp hstart
  rw [sliceFrom_append] at h
  obtain rfl := Except.ok.inj h
  exact ⟨front, rfl, rfl⟩

/-- A checked program on each element of a list. -/
theorem mapM_eq_pure_map {α β : Type} {f : α → Checked β} {g : α → β} {l : List α}
    (h : ∀ a ∈ l, f a = pure (g a)) : l.mapM f = pure (l.map g) := by
  induction l with
  | nil => rfl
  | cons a l ih =>
    obtain ⟨ha, hl⟩ := List.forall_mem_cons.mp h
    rw [List.mapM_cons, ha, pure_bind, ih hl, pure_bind, List.map_cons]

end Checked

end LinkTemplate
