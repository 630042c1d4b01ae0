import TermKeys.Text.Numeral
import TermKeys.Unicode.Printable

/-!
Quoted form: the way names and file paths are shown inside messages. A text stands between
single quotes, or between double quotes if it holds single quotes only, and every character
that is not printable is written as an escape.
-/

set_option autoImplicit false

namespace TermKeys.Text

open Unicode

/-- A code point that is not printable, as the shortest numeric escape that holds its number. -/
def numericEscape (n : Nat) : Text :=
  if n ≤ 0xFF then '\\' :: 'x' :: hexPadded 2 n
  else if n ≤ 0xFFFF then '\\' :: 'u' :: hexPadded 4 n
  else '\\' :: 'U' :: hexPadded 8 n

/-- One character between the given quotes. -/
def quotedChar (quote c : Char) : Text :=
  if c = quote ∨ c = '\\' then ['\\', c]
  else if c = '\t' then ['\\', 't']
  else if c = '\n' then ['\\', 'n']
  else if c = '\r' then ['\\', 'r']
  else if isPrintable c then [c]
  else numericEscape c.toNat

/-- The quotes around a text. -/
def quoteFor (text : Text) : Char :=
  if text.contains '\'' && !text.contains '"' then '"' else '\''

/-- The quoted form of a text. -/
def quoted (text : Text) : Text :=
  let quote := quoteFor text
  quote :: text.flatMap (quotedChar quote) ++ [quote]

end TermKeys.Text
