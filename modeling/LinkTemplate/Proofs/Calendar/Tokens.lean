import LinkTemplate.Calendar.Offset
import LinkTemplate.Proofs.Text.Digits
import Mathlib.Data.List.Basic

/-!
# Offset tokens

A token writes an offset if it is a sign, one or more decimal digits for an amount that fits into
64 bits with a sign, and the letter of a unit (`Offset.Writes`). Leading zeros are allowed, and the
negative amounts go no further than the positive ones. These are the tokens that are read
(`parse?_eq_some_iff`), among them the token that is written for every offset of such an amount
(`writes_print`).

The value of the digits is Mathlib's `Nat.ofDigits`, of the digits from the last to the first.
-/

namespace LinkTemplate

theorem OffsetUnit.ofLetter?_eq_some_iff {c : Char} {u : OffsetUnit} :
    ofLetter? c = some u ↔ c = u.letter := by
  constructor
  · intro h
    have hletter := List.find?_some h
    exact (of_decide_eq_true hletter).symm
  · rintro rfl
    exact ofLetter?_letter u

namespace Offset

/-- The digits write a number that fits into 64 bits with a sign. -/
structure WritesAmount (digits : Text) (n : Nat) : Prop where
  ne_nil : digits ≠ []
  isDigit : ∀ c ∈ digits, '0' ≤ c ∧ c ≤ '9'
  value : n = Nat.ofDigits 10 (digits.reverse.map fun c => c.toNat - '0'.toNat)
  le : n ≤ 9223372036854775807

/-- The token is a sign, the digits of an amount and the letter of a unit. -/
inductive Writes : Offset → Text → Prop
  | plus {digits : Text} {n : Nat} (unit : OffsetUnit) (h : WritesAmount digits n) :
    Writes ⟨n, unit⟩ ('+' :: digits ++ [unit.letter])
  | minus {digits : Text} {n : Nat} (unit : OffsetUnit) (h : WritesAmount digits n) :
    Writes ⟨-n, unit⟩ ('-' :: digits ++ [unit.letter])

theorem sign?_eq_some_iff {c : Char} {sign : Int} :
    sign? c = some sign ↔ c = '+' ∧ sign = 1 ∨ c = '-' ∧ sign = -1 := by
  unfold sign?
  split <;> simp_all [eq_comm]

theorem writesAmount_iff {digits : Text} {n : Nat} :
    WritesAmount digits n ↔
      (digits ≠ [] ∧ digits.all Char.isDigit ∧ Text.ofDecimal digits ≤ maxAmount) ∧
        n = Text.ofDecimal digits := by
  have hdigit : ∀ c : Char, c.isDigit = true ↔ '0' ≤ c ∧ c ≤ '9' := fun c => by
    rw [Char.isDigit, Bool.and_eq_true, decide_eq_true_eq, decide_eq_true_eq]
    rfl
  rw [List.all_eq_true, Text.ofDecimal_eq_ofDigits]
  simp only [hdigit]
  constructor
  · rintro ⟨hne, hdigits, rfl, hle⟩
    exact ⟨⟨hne, hdigits, hle⟩, rfl⟩
  · rintro ⟨⟨hne, hdigits, hle⟩, rfl⟩
    exact ⟨hne, hdigits, rfl, hle⟩

/-- Behind its sign, a token is the digits of its amount and the letter of its unit. -/
theorem parse?_cons_eq_some_iff {c : Char} {rest : Text} {o : Offset} :
    parse? (c :: rest) = some o ↔ ∃ sign digits n, sign? c = some sign ∧
      WritesAmount digits n ∧ rest = digits ++ [o.unit.letter] ∧ o.amount = sign * n := by
  obtain ⟨amount, unit⟩ := o
  simp only [parse?, Option.bind_eq_bind, Option.bind_eq_some_iff]
  constructor
  · rintro ⟨sign, hsign, unit, ⟨letter, hlast, hunit⟩, hif⟩
    obtain rfl := OffsetUnit.ofLetter?_eq_some_iff.mp hunit
    obtain ⟨hamount, hoffset⟩ := Option.ite_none_right_eq_some.mp hif
    obtain ⟨rfl, rfl⟩ := Offset.mk.inj (Option.some.inj hoffset)
    exact ⟨sign, rest.dropLast, _, hsign, writesAmount_iff.mpr ⟨hamount, rfl⟩,
      (List.dropLast_append_getLast? _ hlast).symm, rfl⟩
  · rintro ⟨sign, digits, n, hsign, hwrites, rfl, rfl⟩
    obtain ⟨hamount, rfl⟩ := writesAmount_iff.mp hwrites
    refine ⟨sign, hsign, unit, ⟨unit.letter, List.getLast?_concat, ?_⟩, ?_⟩
    · exact OffsetUnit.ofLetter?_letter unit
    · rw [List.dropLast_concat, if_pos hamount]

/-- The tokens that write an offset are read as it, and no other token is read. -/
theorem parse?_eq_some_iff {token : Text} {o : Offset} :
    parse? token = some o ↔ o.Writes token := by
  cases token with
  | nil =>
    constructor
    · intro h
      cases h
    · intro h
      cases h
  | cons c rest =>
    rw [parse?_cons_eq_some_iff]
    constructor
    · rintro ⟨sign, digits, n, hsign, hwrites, rfl, hamount⟩
      obtain ⟨amount, unit⟩ := o
      rcases sign?_eq_some_iff.mp hsign with ⟨rfl, rfl⟩ | ⟨rfl, rfl⟩
      · obtain rfl : amount = n := hamount.trans (Int.one_mul _)
        exact .plus unit hwrites
      · obtain rfl : amount = -n := hamount.trans (Int.neg_one_mul _)
        exact .minus unit hwrites
    · intro h
      cases h with
      | plus unit h => exact ⟨1, _, _, rfl, h, rfl, (Int.one_mul _).symm⟩
      | minus unit h => exact ⟨-1, _, _, rfl, h, rfl, (Int.neg_one_mul _).symm⟩

theorem parse?_eq_none_iff {token : Text} :
    parse? token = none ↔ ∀ o : Offset, ¬o.Writes token := by
  simp only [Option.eq_none_iff_forall_ne_some, ne_eq, parse?_eq_some_iff]

theorem writesAmount_decimal {n : Nat} (h : n ≤ maxAmount) : WritesAmount (Text.decimal n) n := by
  refine writesAmount_iff.mpr ⟨⟨?_, ?_, ?_⟩, (Text.ofDecimal_decimal n).symm⟩
  · exact Nat.toDigits_ne_nil
  · rw [List.all_eq_true]
    exact fun c => Nat.isDigit_of_mem_toDigits (by decide) (by decide)
  · rwa [Text.ofDecimal_decimal]

theorem writes_print {o : Offset} (h : o.amount.natAbs ≤ maxAmount) : o.Writes o.print := by
  obtain ⟨amount, unit⟩ := o
  by_cases hsign : 0 ≤ amount
  · obtain ⟨n, rfl⟩ := Int.eq_ofNat_of_zero_le hsign
    rw [print, if_pos hsign]
    exact .plus unit (writesAmount_decimal h)
  · obtain ⟨n, rfl⟩ := Int.exists_eq_neg_ofNat (Int.le_of_lt (Int.not_le.mp hsign))
    rw [Int.natAbs_neg] at h
    rw [print, if_neg hsign, Int.natAbs_neg]
    exact .minus unit (writesAmount_decimal h)

theorem Writes.fitsWord {o : Offset} {token : Text} (h : o.Writes token) :
    FitsWord o.amount := by
  cases h with
  | plus unit h =>
    have := h.le
    refine ⟨?_, ?_⟩ <;> simp only [maxAmount] <;> omega
  | minus unit h =>
    have := h.le
    refine ⟨?_, ?_⟩ <;> simp only [maxAmount] <;> omega

end Offset

/-- A token is read as an offset if it is a sign, digits of an amount that fits into 64 bits with a
sign, and the letter of the unit; every other token leaves an instant as it is. The token that is
written for an offset of such an amount is read as that offset, and no amount that is read leaves
the 64 bits. -/
theorem tokens_are_written_offsets :
    (∀ token o, Offset.parse? token = some o ↔ o.Writes token) ∧
    (∀ token, (∀ o : Offset, ¬o.Writes token) → ∀ x : Instant, x.shiftBy token = x) ∧
    (∀ o : Offset, o.amount.natAbs ≤ 9223372036854775807 → Offset.parse? o.print = some o) ∧
    ∀ token o, Offset.parse? token = some o → Offset.FitsWord o.amount := by
  refine ⟨fun _ _ => Offset.parse?_eq_some_iff, fun token h x => ?_, fun o h => ?_,
    fun token o h => (Offset.parse?_eq_some_iff.mp h).fitsWord⟩
  · rw [Instant.shiftBy, Offset.parse?_eq_none_iff.mpr h]
    rfl
  · exact Offset.parse?_eq_some_iff.mpr (Offset.writes_print h)

/-- The largest amount goes both ways, with zeros in front of its digits too, and one more fits
neither way. -/
theorem tokens_are_written_offsets_extreme :
    let least : Offset := ⟨-9223372036854775807, .months⟩
    let below := "-9223372036854775808M".toList
    least.amount.natAbs ≤ 9223372036854775807 ∧ Offset.parse? least.print = some least ∧
      least.Writes "-009223372036854775807M".toList ∧ Offset.FitsWord least.amount ∧
      (∀ o : Offset, ¬o.Writes below) ∧ ∀ x : Instant, x.shiftBy below = x := by
  intro least below
  obtain ⟨hread, hkept, hprint, hfits⟩ := tokens_are_written_offsets
  have hleast : least.amount.natAbs ≤ 9223372036854775807 := by decide
  have hzeros : Offset.parse? "-009223372036854775807M".toList = some least := by decide +kernel
  have hbelow : ∀ o : Offset, ¬o.Writes below := fun o ho => by
    have hnone : Offset.parse? below = none := by decide +kernel
    rw [(hread below o).mpr ho] at hnone
    cases hnone
  exact ⟨hleast, hprint least hleast, (hread _ least).mp hzeros, hfits _ least hzeros, hbelow,
    hkept below hbelow⟩

end LinkTemplate
