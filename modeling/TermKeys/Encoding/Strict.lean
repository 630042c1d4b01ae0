import TermKeys.Fault

/-!
Writing in an encoding without loss. A text is written in full, or it is refused for what the
encoding lacks in it. Every encoding lacks the surrogates, and the Unicode encodings nothing else;
so a text that is written in UTF-8 is one of characters.
-/

set_option autoImplicit false

namespace TermKeys

namespace Encoding

/-- The bytes of a code point, unless the encoding lacks it. -/
def encodePoint? (encoding : Encoding) : CodePoint → Option Bytes
  | .char c => encoding.encodeChar? c
  | .surrogate _ => none

/-- The code points at the front of a text that are refused along with the one before it. UTF-16
refuses them one by one. -/
def lackedRun (encoding : Encoding) (points : Points) : Points :=
  if encoding = .utf16le then []
  else points.takeWhile fun point ↦ (encoding.encodePoint? point).isNone

/-- The bytes of a text whose first code point has the given position, or the first run of those
that the encoding lacks. -/
def encodeFrom (encoding : Encoding) (position : Nat) : Points → Except Fault Bytes
  | [] => .ok []
  | point :: rest =>
    match encoding.encodePoint? point with
    | some bytes => (encodeFrom encoding (position + 1) rest).map (bytes ++ ·)
    | none =>
      .error (.unencodable encoding point position (position + (encoding.lackedRun rest).length))

/-- The bytes of a text, or the first run of code points that the encoding lacks. -/
def encodeStrict (encoding : Encoding) (points : Points) : Except Fault Bytes :=
  encodeFrom encoding 0 points

end Encoding

/-- The characters of a text without surrogates. -/
def Points.characters (points : Points) : Except Fault Text :=
  (Encoding.utf8.encodeStrict points).map fun _ ↦ points.filterMap CodePoint.char?

end TermKeys
