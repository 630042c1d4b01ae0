import TermKeys.Binding
import TermKeys.Json.Printer
import TermKeys.Text.Base64

/-!
Reports: bindings as JSON objects, with their readable forms beside the exact values. The text
of a binding stands in a report in base 64, as it is in the layout file.
-/

set_option autoImplicit false

namespace TermKeys.Binding

/-- The characters of bytes below 0x80. -/
def asciiText (bytes : Bytes) : Text := bytes.map fun b ↦ Char.ofNat b.toNat

/-- The report of a binding, its result being read in the given encoding. -/
def report (binding : Binding) (encoding : Text) : Except Fault Json := do
  let condition ← binding.toCondition.points
  let result ← binding.resultText encoding
  let key ← Key.points binding.keyCode
  -- Only a report that is complete is written, so what has no name comes before a surrogate.
  let condition ← condition.characters
  let key ← key.characters
  return .object [
    ("condition".toList, .string condition),
    ("result".toList, .string result),
    ("key_code".toList, .whole binding.keyCode),
    ("key".toList, .string key),
    ("modifiers".toList, .whole binding.modifiers),
    ("modifier_mask".toList, .whole binding.modifierMask),
    ("state".toList, .whole binding.modes),
    ("state_mask".toList, .whole binding.modeMask),
    ("command".toList, .whole binding.command.code),
    ("text".toList, .string (Text.base64 binding.text)),
    ("escaped_text".toList, .string (asciiText binding.writtenOutput))]

/-- The report of a binding on one line. -/
def reportLine (binding : Binding) (encoding : Text) : Except Fault Text :=
  (binding.report encoding).map (Json.print Json.Style.oneLine)

end TermKeys.Binding
