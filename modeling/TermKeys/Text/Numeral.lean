import TermKeys.Text.Basic

/-!
Whole numbers in decimal and hexadecimal digits.
-/

set_option autoImplicit false

namespace TermKeys.Text

/-- The decimal digits of a number. -/
def ofNat (n : Nat) : Text := Nat.toDigits 10 n

/-- The decimal digits of a number, after a minus sign if it is negative. -/
def ofInt : Int → Text
  | .ofNat n => ofNat n
  | .negSucc n => '-' :: ofNat (n + 1)

/-- The hexadecimal digits of a number, in lower case. -/
def hexOfNat (n : Nat) : Text := Nat.toDigits 16 n

/-- Hexadecimal digits with zeros in front up to the given width. -/
def hexPadded (width n : Nat) : Text :=
  let digits := hexOfNat n
  List.replicate (width - digits.length) '0' ++ digits

/-- The hexadecimal digits of a number, after a minus sign if it is negative. -/
def hexOfInt : Int → Text
  | .ofNat n => hexOfNat n
  | .negSucc n => '-' :: hexOfNat (n + 1)

/-- The value of a hexadecimal digit of either case. -/
def hexValue? (c : Char) : Option Nat :=
  let n := c.toNat
  if 0x30 ≤ n ∧ n ≤ 0x39 then some (n - 0x30)
  else if 0x41 ≤ n ∧ n ≤ 0x46 then some (n - 0x41 + 10)
  else if 0x61 ≤ n ∧ n ≤ 0x66 then some (n - 0x61 + 10)
  else none

/-- The value of a decimal digit. -/
def digitValue? (c : Char) : Option Nat :=
  let n := c.toNat
  if 0x30 ≤ n ∧ n ≤ 0x39 then some (n - 0x30) else none

end TermKeys.Text
