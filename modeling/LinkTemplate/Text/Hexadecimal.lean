import LinkTemplate.Text.Basic

/-!
# Hexadecimal digits

`hexDigit` and `hexCapital` write a number below 16 as one digit, in small letters and in
capitals; `hexValue?` reads a digit in either case, and takes back what the two write.
`hexadecimal` writes a number of any size.
-/

namespace LinkTemplate.Text

/-- The digit, in small letters, of a number below 16. -/
def hexDigit (n : Nat) : Char :=
  Nat.digitChar n

/-- The digit, in capitals, of a number below 16. -/
def hexCapital (n : Nat) : Char :=
  (hexDigit n).toUpper

/-- The value of a digit in either case. -/
def hexValue? (c : Char) : Option Nat :=
  if '0' ≤ c ∧ c ≤ '9' then some (c.toNat - '0'.toNat)
  else if 'A' ≤ c ∧ c ≤ 'F' then some (c.toNat - 'A'.toNat + 10)
  else if 'a' ≤ c ∧ c ≤ 'f' then some (c.toNat - 'a'.toNat + 10)
  else none

/-- The digits of a number in small letters, without leading zeros. -/
def hexadecimal (n : Nat) : Text :=
  Nat.toDigits 16 n

theorem hexValue?_hexDigit : ∀ n < 16, hexValue? (hexDigit n) = some n := by
  decide

theorem hexValue?_hexCapital : ∀ n < 16, hexValue? (hexCapital n) = some n := by
  decide

end LinkTemplate.Text
