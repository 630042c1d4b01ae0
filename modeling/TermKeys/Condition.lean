import TermKeys.Key
import TermKeys.Modifier

/-!
Conditions: which key presses a binding answers. A condition names a key and says of some
modifiers and modes whether they have to be present or absent; the masks tell which ones it
says anything of.
-/

set_option autoImplicit false

namespace TermKeys

/-- A press of a key, with the modifiers held and the modes the terminal is in. -/
structure KeyPress where
  keyCode : Int
  modifiers : Nat
  modes : Nat
deriving DecidableEq, Repr

/-- Whether a modifier other than the keypad one is held. The keypad has the highest bit of all
modifiers; a bit below it counts even if it has no name, and a bit above it does not. -/
def anyModifierHeld (modifiers : Nat) : Bool := modifiers % Modifier.keypad.bit != 0

/-- A key with the modifiers and modes that must and must not be present. -/
structure Condition where
  keyCode : Int := Key.unknown
  modifiers : Nat := 0
  modifierMask : Nat := 0
  modes : Nat := 0
  modeMask : Nat := 0
deriving DecidableEq, Repr

namespace Condition

/-- Whether a bit is set. -/
def hasBit (set bit : Nat) : Bool := set &&& bit != 0

/-- The modes of a key press, with the one that tells of any modifier when one is held. -/
def pressModes (press : KeyPress) : Nat :=
  if anyModifierHeld press.modifiers then press.modes ||| Mode.anyModifier.bit else press.modes

/-- Whether a key press meets a condition. A condition on any modifier is about the modifiers
that are held, whatever the modes of the press say. -/
def accepts (condition : Condition) (press : KeyPress) : Bool :=
  condition.keyCode = press.keyCode
    && press.modifiers &&& condition.modifierMask
        == condition.modifiers &&& condition.modifierMask
    && pressModes press &&& condition.modeMask == condition.modes &&& condition.modeMask
    && (!hasBit condition.modeMask Mode.anyModifier.bit
        || hasBit condition.modes Mode.anyModifier.bit == anyModifierHeld press.modifiers)

/-- A sign and a name, if the mask has the bit. -/
def flagText (set mask bit : Nat) (name : Text) : Text :=
  if hasBit mask bit then (if hasBit set bit then '+' else '-') :: name else []

/-- The modifiers and modes of a condition, each with its sign. -/
def flagsText (condition : Condition) : Text :=
  (Modifier.all.flatMap fun m ↦
      flagText condition.modifiers condition.modifierMask m.bit m.text)
    ++ Mode.all.flatMap fun m ↦ flagText condition.modes condition.modeMask m.bit m.text

/-- A condition in words: the name of the key, then the modifiers and modes. -/
def points (condition : Condition) : Except Fault Points :=
  (Key.points condition.keyCode).map fun key ↦ key ++ Text.points condition.flagsText

/-- The written form of a condition. -/
def text (condition : Condition) : Except Fault Text := condition.points.bind Points.characters

end Condition

end TermKeys
