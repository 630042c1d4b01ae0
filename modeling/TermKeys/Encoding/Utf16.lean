import TermKeys.Text.Basic

/-!
UTF-16 with the low byte first. A character above U+FFFF is a pair of surrogate units, and a
surrogate without its partner is broken.
-/

set_option autoImplicit false

namespace TermKeys.Utf16

/-- The unit of two bytes. -/
def unit (low high : UInt8) : Nat := low.toNat + 256 * high.toNat

/-- Whether a unit is the first half of a pair. -/
def isLeading (unit : Nat) : Bool := 0xD800 ≤ unit && unit < 0xDC00

/-- Whether a unit is the second half of a pair. -/
def isTrailing (unit : Nat) : Bool := 0xDC00 ≤ unit && unit < 0xE000

/-- The character of a pair. -/
def pair (leading trailing : Nat) : Char :=
  Char.ofNat (0x10000 + (leading - 0xD800) * 0x400 + (trailing - 0xDC00))

/-- The characters of a byte string, with `none` for each broken piece: a surrogate alone,
an odd byte at the end, or a first half at the end with whatever byte follows it. -/
def scan : Bytes → List (Option Char)
  | [] => []
  | [_] => [none]
  | a :: b :: rest =>
    if isLeading (unit a b) then
      match rest with
      | [] => [none]
      | [_] => [none]
      | c :: d :: rest' =>
        if isTrailing (unit c d) then some (pair (unit a b) (unit c d)) :: scan rest'
        else none :: scan (c :: d :: rest')
    else if isTrailing (unit a b) then none :: scan rest
    else some (Char.ofNat (unit a b)) :: scan rest

/-- The two bytes of a unit. -/
def unitBytes (unit : Nat) : Bytes := [UInt8.ofNat (unit % 256), UInt8.ofNat (unit / 256)]

/-- The units of a character. -/
def units (c : Char) : List Nat :=
  if c.toNat < 0x10000 then [c.toNat]
  else [0xD800 + (c.toNat - 0x10000) / 0x400, 0xDC00 + (c.toNat - 0x10000) % 0x400]

/-- The bytes of a character. -/
def encodeChar (c : Char) : Bytes := (units c).flatMap unitBytes

end TermKeys.Utf16
