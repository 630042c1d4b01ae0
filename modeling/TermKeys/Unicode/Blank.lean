import TermKeys.Unicode.Ranges

/-!
Blank characters, after Unicode 14: the ASCII blanks, the four information
separators, the next-line control and the spaces and separators of Unicode.
-/

set_option autoImplicit false

namespace TermKeys.Unicode

/-- The ranges of blank characters. -/
def blank : Ranges :=
  [(0x9, 0xD), (0x1C, 0x20), (0x85, 0x85), (0xA0, 0xA0), (0x1680, 0x1680), (0x2000, 0x200A),
   (0x2028, 0x2029), (0x202F, 0x202F), (0x205F, 0x205F), (0x3000, 0x3000)]

/-- Whether a character separates words. -/
def isBlank (c : Char) : Bool := blank.holds c.toNat

end TermKeys.Unicode
