import LinkTemplate.Text.Basic
import Mathlib.Data.List.Induction
import Mathlib.Data.Nat.Digits.Defs

/-!
# Decimal digits

A number of few enough digits, padded with zeros, has as many digits as the field is wide and is
read back from it (`length_padded`, `ofDecimal_padded`). The other way round, digits write the
number that they are the digits of, from the last to the first (`ofDecimal_eq_ofDigits`), and so
many digits are enough for it (`ofDecimal_lt`).
-/

namespace LinkTemplate.Text

variable {width n : Nat}

theorem length_padded (hwidth : 0 < width) (h : n < 10 ^ width) :
    (padded width n).length = width := by
  rw [padded, List.length_leftpad, decimal]
  exact Nat.max_eq_left ((Nat.length_toDigits_le_iff (by decide) hwidth).mpr h)

theorem le_length_padded (width n : Nat) : width ≤ (padded width n).length := by
  rw [padded, List.length_leftpad]
  exact Nat.le_max_left _ _

/-- A text cut or padded to its own length is itself. -/
theorem rightpad_take {t : Text} (h : t.length = width) :
    (t.take width).rightpad width '0' = t := by
  rw [List.take_of_length_le (Nat.le_of_eq h), List.rightpad, h, Nat.sub_self,
    List.replicate_zero, List.append_nil]

theorem isDigit_of_mem_padded {c : Char} (h : c ∈ padded width n) : c.isDigit = true := by
  rw [padded, List.leftpad, List.mem_append] at h
  rcases h with hzero | hdigit
  · rw [(List.mem_replicate.mp hzero).2]
    decide
  · exact Nat.isDigit_of_mem_toDigits (by decide) (by decide) hdigit

theorem ofDecimal_padded (width n : Nat) : ofDecimal (padded width n) = n := by
  rw [padded, List.leftpad, ofDecimal, Nat.ofDigitChars_append, Nat.ofDigitChars_replicate_zero,
    Nat.mul_zero]
  exact ofDecimal_decimal n

theorem toNat_sub_lt_of_isDigit {c : Char} (h : c.isDigit = true) : c.toNat - '0'.toNat < 10 := by
  simp only [Char.isDigit, Bool.and_eq_true, decide_eq_true_eq] at h
  have hle : c.toNat ≤ '9'.toNat := UInt32.le_iff_toNat_le.mp h.2
  exact Nat.lt_succ_of_le (Nat.sub_le_sub_right hle _)

theorem ofDecimal_eq_ofDigits (digits : Text) :
    ofDecimal digits = Nat.ofDigits 10 (digits.reverse.map fun c => c.toNat - '0'.toNat) := by
  induction digits using List.reverseRecOn with
  | nil => rfl
  | append_singleton digits c ih =>
    rw [List.reverse_concat, List.map_cons, Nat.ofDigits_cons, ← ih, ofDecimal, ofDecimal,
      Nat.ofDigitChars_append, Nat.ofDigitChars_cons, Nat.ofDigitChars_nil, Nat.add_comm]

theorem ofDecimal_lt {digits : Text} (h : ∀ c ∈ digits, c.isDigit = true) :
    ofDecimal digits < 10 ^ digits.length := by
  have hvalues : ∀ n ∈ digits.reverse.map (fun c => c.toNat - '0'.toNat), n < 10 := by
    intro n hn
    obtain ⟨c, hc, rfl⟩ := List.mem_map.mp hn
    exact toNat_sub_lt_of_isDigit (h c (List.mem_reverse.mp hc))
  have hlt := Nat.ofDigits_lt_base_pow_length (by decide) hvalues
  rwa [← ofDecimal_eq_ofDigits, List.length_map, List.length_reverse] at hlt

end LinkTemplate.Text
