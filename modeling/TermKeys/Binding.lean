import TermKeys.Command
import TermKeys.Condition
import TermKeys.Encoding.Named
import TermKeys.Escape

/-!
Bindings: what a terminal does on a key press. A binding has a condition and either triggers a
command or sends text, which is kept as it stands in the layout file, escapes and all.
-/

set_option autoImplicit false

namespace TermKeys

/-- A condition and what follows when a key press meets it. -/
structure Binding extends Condition where
  command : Command
  text : Bytes
deriving DecidableEq, Repr

namespace Binding

/-- The binding that stands for none. -/
def null : Binding where
  keyCode := 0
  command := .none
  text := []

/-- Whether a binding is the one that stands for none. -/
def isNull (binding : Binding) : Bool := binding = null

/-- The bytes that a terminal sends. -/
def output (binding : Binding) : Bytes := Escape.expand binding.text

/-- The bytes that a terminal sends, written with escapes. -/
def writtenOutput (binding : Binding) : Bytes := Escape.write binding.output

/-- The parameter that tells an application of the modifiers held. -/
def modifierParameter (modifiers : Nat) : Nat :=
  1 + (Condition.hasBit modifiers Modifier.shift.bit).toNat
    + 2 * (Condition.hasBit modifiers Modifier.alt.bit).toNat
    + 4 * (Condition.hasBit modifiers Modifier.control.bit).toNat

/-- The bytes that a terminal sends while modifiers are held, with their parameter in place of
every asterisk. -/
def outputFor (binding : Binding) (modifiers : Nat) : Bytes :=
  binding.output.map fun byte ↦
    if byte = 0x2A then UInt8.ofNat (0x30 + modifierParameter modifiers) else byte

/-- What follows a condition in words: the spelling of the command, or the text to send between
quotes, read by the given decoder. -/
def resultPoints (binding : Binding) (decode : Bytes → Except Fault Points) :
    Except Fault Points :=
  match binding.text, binding.command.text? with
  | [], some spelling => .ok (Text.points spelling)
  | _, _ =>
    (decode binding.writtenOutput).map fun points ↦ .char '"' :: points ++ [.char '"']

/-- The line of a binding in a layout file, without its end. -/
def linePoints (binding : Binding) (decode : Bytes → Except Fault Points) :
    Except Fault Points := do
  let condition ← binding.toCondition.points
  let result ← binding.resultPoints decode
  return Text.points "key ".toList ++ condition ++ Text.points " : ".toList ++ result

/-- The decoder of an encoding that is given by name. -/
def decoder (encoding : Text) (bytes : Bytes) : Except Fault Points :=
  (Encoding.decodeAs encoding bytes).map Text.points

/-- The written form of what follows a condition. -/
def resultText (binding : Binding) (encoding : Text) : Except Fault Text :=
  (binding.resultPoints (decoder encoding)).bind Points.characters

/-- The written form of a line. -/
def line (binding : Binding) (encoding : Text) : Except Fault Text :=
  (binding.linePoints (decoder encoding)).bind Points.characters

end Binding

end TermKeys
