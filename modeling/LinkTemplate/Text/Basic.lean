/-!
# Text

A text is a list of characters. A position in a text is the number of UTF-8 bytes in front of
it, and `takeBytes`, `dropBytes` and `slice` cut at such positions; a position that falls inside
a character counts as the start of that character, so the two halves of a cut always make up the
text again (`takeBytes_append_dropBytes`). The other operations split a text at a character:
`cut?` at its first occurrence, `splitOn` at all of them.
-/

namespace LinkTemplate

/-- A text, as the list of its characters. -/
abbrev Text := List Char

namespace Text

/-! ## Positions -/

/-- The number of UTF-8 bytes of a text. -/
def utf8Size : Text → Nat
  | [] => 0
  | c :: rest => c.utf8Size + utf8Size rest

/-- The characters that end at or before position `n`. -/
def takeBytes : Nat → Text → Text
  | _, [] => []
  | n, c :: rest => if n < c.utf8Size then [] else c :: takeBytes (n - c.utf8Size) rest

/-- The characters that `takeBytes n` leaves. -/
def dropBytes : Nat → Text → Text
  | _, [] => []
  | n, c :: rest => if n < c.utf8Size then c :: rest else dropBytes (n - c.utf8Size) rest

/-- The text between two positions. -/
def slice (start stop : Nat) (t : Text) : Text :=
  takeBytes (stop - start) (dropBytes start t)

/-- Position `n` lies in the text, between two characters or at an end. -/
def IsBoundary (n : Nat) (t : Text) : Prop :=
  utf8Size (takeBytes n t) = n

@[simp] theorem utf8Size_nil : utf8Size [] = 0 := rfl

@[simp] theorem utf8Size_cons (c : Char) (t : Text) :
    utf8Size (c :: t) = c.utf8Size + utf8Size t := rfl

theorem length_le_utf8Size (t : Text) : t.length ≤ utf8Size t := by
  induction t with
  | nil => exact Nat.le_refl _
  | cons c t ih =>
    have := Char.utf8Size_pos c
    rw [List.length_cons, utf8Size_cons]
    omega

@[simp] theorem utf8Size_append (s t : Text) : utf8Size (s ++ t) = utf8Size s + utf8Size t := by
  induction s with
  | nil => simp
  | cons c s ih => simp [ih, Nat.add_assoc]

theorem takeBytes_append_dropBytes (n : Nat) (t : Text) : takeBytes n t ++ dropBytes n t = t := by
  induction t generalizing n with
  | nil => rfl
  | cons c t ih =>
    by_cases h : n < c.utf8Size
    · simp [takeBytes, dropBytes, h]
    · simp [takeBytes, dropBytes, h, ih]

theorem takeBytes_utf8Size_append (s t : Text) : takeBytes (utf8Size s) (s ++ t) = s := by
  induction s with
  | nil => cases t with
    | nil => rfl
    | cons c t => simp [takeBytes, Char.utf8Size_pos c]
  | cons c s ih => simp [takeBytes, ih]

theorem dropBytes_utf8Size_append (s t : Text) : dropBytes (utf8Size s) (s ++ t) = t := by
  have h := takeBytes_append_dropBytes (utf8Size s) (s ++ t)
  rw [takeBytes_utf8Size_append] at h
  exact List.append_cancel_left h

/-- A slice between the two ends of a middle part is that part. -/
theorem slice_append (s m t : Text) :
    slice (utf8Size s) (utf8Size s + utf8Size m) (s ++ (m ++ t)) = m := by
  rw [slice, dropBytes_utf8Size_append, Nat.add_sub_cancel_left, takeBytes_utf8Size_append]

/-! ## Splitting -/

/-- The text in front of the first `sep` and the text behind it, if there is one. -/
def cut? (sep : Char) : Text → Option (Text × Text)
  | [] => none
  | c :: rest => if c = sep then some ([], rest) else (cut? sep rest).map fun p => (c :: p.1, p.2)

/-- The parts of a text between its `sep`s: one more than there are `sep`s. -/
def splitOn (sep : Char) : Text → List Text
  | [] => [[]]
  | c :: rest =>
    if c = sep then [] :: splitOn sep rest
    else match splitOn sep rest with
      | [] => [[c]]
      | part :: parts => (c :: part) :: parts

/-- What follows `start` in a text that begins with it. -/
def afterStart? : (start t : Text) → Option Text
  | [], t => some t
  | _ :: _, [] => none
  | p :: start, c :: t => if p = c then afterStart? start t else none

/-- The texts in order, with `sep` between neighbours. -/
def join (sep : Text) (parts : List Text) : Text :=
  List.intercalate sep parts

theorem eq_of_cut? {sep : Char} {t front back : Text} (h : cut? sep t = some (front, back)) :
    t = front ++ sep :: back ∧ sep ∉ front := by
  induction t generalizing front with
  | nil => simp [cut?] at h
  | cons c t ih =>
    by_cases hc : c = sep
    · simp only [cut?, hc, if_true, Option.some.injEq, Prod.mk.injEq] at h
      simp [← h.1, ← h.2, hc]
    · simp only [cut?, hc, if_false, Option.map_eq_some_iff, Prod.mk.injEq] at h
      obtain ⟨⟨f, b⟩, hp, rfl, rfl⟩ := h
      obtain ⟨rfl, hmem⟩ := ih hp
      simp [hmem, Ne.symm hc]

theorem cut?_append {sep : Char} {front : Text} (h : sep ∉ front) (back : Text) :
    cut? sep (front ++ sep :: back) = some (front, back) := by
  induction front with
  | nil => simp [cut?]
  | cons c front ih =>
    simp only [List.mem_cons, not_or] at h
    simp [cut?, Ne.symm h.1, ih h.2]

theorem cut?_eq_none_iff {sep : Char} {t : Text} : cut? sep t = none ↔ sep ∉ t := by
  induction t with
  | nil => simp [cut?]
  | cons c t ih =>
    by_cases hc : c = sep
    · simp [cut?, hc]
    · simp [cut?, hc, ih, Ne.symm hc]

theorem afterStart?_eq_some_iff {start t rest : Text} :
    afterStart? start t = some rest ↔ t = start ++ rest := by
  induction start generalizing t with
  | nil => simp [afterStart?]
  | cons p start ih =>
    cases t with
    | nil => simp [afterStart?]
    | cons c t =>
      by_cases h : p = c
      · simp [afterStart?, h, ih]
      · simp [afterStart?, h, Ne.symm h]

/-! ## Letters and digits -/

/-- The text with the ASCII capitals made small; every other character is kept. -/
def asciiLower (t : Text) : Text :=
  t.map Char.toLower

/-- The decimal digits of a number, without leading zeros. -/
def decimal (n : Nat) : Text :=
  Nat.toDigits 10 n

/-- The decimal digits of a number, with zeros in front up to `width` characters. -/
def padded (width n : Nat) : Text :=
  (decimal n).leftpad width '0'

/-- The number that decimal digits write. -/
def ofDecimal (digits : Text) : Nat :=
  Nat.ofDigitChars 10 digits 0

theorem ofDecimal_decimal (n : Nat) : ofDecimal (decimal n) = n :=
  Nat.ofDigitChars_ten_toDigits

/-! ## Sets of characters -/

/-- Whether a character lies in one of the closed ranges of code points. -/
def within (ranges : List (Nat × Nat)) (c : Char) : Bool :=
  ranges.any fun r => r.1 ≤ c.toNat && c.toNat ≤ r.2

end Text

end LinkTemplate
