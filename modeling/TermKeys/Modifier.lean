import TermKeys.Unicode.Case
import TermKeys.Text.Basic

/-!
The modifier keys that may be held during a key press and the modes that a terminal may be
in. Both come in sets, held as numbers with one bit for each member.
-/

set_option autoImplicit false

namespace TermKeys

/-- A modifier key. -/
inductive Modifier
  | shift
  | control
  | alt
  | metaKey
  | keypad
deriving DecidableEq, Repr

namespace Modifier

/-- All modifiers, in the order in which they are written. -/
def all : List Modifier := [shift, control, alt, metaKey, keypad]

/-- The bit of a modifier. -/
def bit : Modifier → Nat
  | shift => 0x2000000
  | control => 0x4000000
  | alt => 0x8000000
  | metaKey => 0x10000000
  | keypad => 0x20000000

/-- The spellings of a modifier. The first of them is the one that is written. -/
def spellings : Modifier → List Text
  | shift => ["Shift".toList]
  | control => ["Ctrl".toList, "Control".toList]
  | alt => ["Alt".toList]
  | metaKey => ["Meta".toList]
  | keypad => ["KeyPad".toList]

/-- The spelling in which a modifier is written. -/
def text (modifier : Modifier) : Text := modifier.spellings.headD []

/-- The spellings in lower case, each with its modifier. -/
def names : List (Text × Modifier) :=
  all.flatMap fun modifier ↦ modifier.spellings.map fun s ↦ (Unicode.lower s, modifier)

/-- The modifier of a name, read without regard to case. -/
def named? (name : Text) : Option Modifier := names.lookup (Unicode.lower name)

end Modifier

/-- A mode of the terminal. -/
inductive Mode
  /-- The alternate screen is shown. -/
  | alternateScreen
  /-- The Enter key sends a carriage return and a line feed. -/
  | newLine
  /-- The terminal speaks ANSI and not VT52. -/
  | ansi
  /-- The cursor keys send application sequences. -/
  | cursorKeys
  /-- A modifier other than the keypad one is held. -/
  | anyModifier
  /-- The keypad sends application sequences. -/
  | keypad
deriving DecidableEq, Repr

namespace Mode

/-- All modes, in the order in which they are written. -/
def all : List Mode := [alternateScreen, newLine, ansi, cursorKeys, anyModifier, keypad]

/-- The bit of a mode. -/
def bit : Mode → Nat
  | newLine => 1
  | ansi => 2
  | cursorKeys => 4
  | alternateScreen => 8
  | anyModifier => 16
  | keypad => 32

/-- The spellings of a mode. The first of them is the one that is written. -/
def spellings : Mode → List Text
  | alternateScreen => ["AppScreen".toList]
  | newLine => ["NewLine".toList]
  | ansi => ["Ansi".toList]
  | cursorKeys => ["AppCursorKeys".toList, "AppCuKeys".toList]
  | anyModifier => ["AnyModifier".toList, "AnyMod".toList]
  | keypad => ["AppKeypad".toList]

/-- The spelling in which a mode is written. -/
def text (mode : Mode) : Text := mode.spellings.headD []

/-- The spellings in lower case, each with its mode. -/
def names : List (Text × Mode) :=
  all.flatMap fun mode ↦ mode.spellings.map fun s ↦ (Unicode.lower s, mode)

/-- The mode of a name, read without regard to case. -/
def named? (name : Text) : Option Mode := names.lookup (Unicode.lower name)

end Mode

end TermKeys
