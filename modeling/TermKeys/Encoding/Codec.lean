import TermKeys.Encoding.Named
import TermKeys.Encoding.Strict

/-!
Encodings as a save uses them. A layout is saved in any encoding that goes by a name, also in one of
those that reading knows nothing of. Such an encoding is given by its decoder and by what its
encoder puts out for one text after another; an encoder may hold back the end of a text until it
knows what follows. One that does is the encoding of domain names, which puts out a label when the
full stop behind it has come.
-/

set_option autoImplicit false

namespace TermKeys

/-- An encoding as it is used for saving. -/
structure Codec where
  /-- The text of a byte string, with something put for each broken piece. -/
  decode : Bytes → Except Fault Points
  /-- The bytes that are put out for a text, given the texts before it. -/
  encode : List Points → Points → Except Fault Bytes

/-- The further encodings by their names. -/
abbrev Codecs := Text → Option Codec

/-- An encoding without memory. -/
def Encoding.codec (encoding : Encoding) : Codec where
  decode bytes := .ok (encoding.decode bytes).points
  encode _ points := encoding.encodeStrict points

namespace Codec

/-- The encoding of a name, for the given use. -/
def find (others : Codecs) (use : EncodingUse) (name : Text) : Except Fault Codec :=
  match Encoding.find use name with
  | .ok encoding => .ok encoding.codec
  | .error fault =>
    match fault, others name with
    | .unknownEncoding _, some codec => .ok codec
    | _, _ => .error fault

/-- The text of a byte string in the encoding of a name. -/
def decodeAs (others : Codecs) (name : Text) (bytes : Bytes) : Except Fault Points :=
  if name.contains (Char.ofNat 0) then .error .nullInEncoding
  else if bytes.isEmpty then .ok []
  else (find others .decode name).bind fun codec ↦ codec.decode bytes

/-! ### Domain names -/

/-- Whether a code point ends a label: the full stop, or one of those of East Asian scripts. -/
def isStop (point : CodePoint) : Bool := [0x2E, 0x3002, 0xFF0E, 0xFF61].contains point.toNat

/-- The labels of a text that a full stop ends, and what stands behind the last stop. -/
def labels : Points → List Points × Points
  | [] => ([], [])
  | point :: rest =>
    let (ended, last) := labels rest
    if isStop point then ([] :: ended, last)
    else match ended with
      | [] => ([], point :: last)
      | label :: more => ((point :: label) :: more, last)

/-- The encoding of domain names, given the bytes of a label. What stands behind the last full stop
is held back. Its decoder refuses to put anything for a broken piece. -/
def domains (toAscii : Points → Except Fault Bytes) : Codec where
  decode _ := .error (.codec (
    "decoding with 'idna' codec failed (UnicodeError: Unsupported error handling ".toList
      ++ "replace)".toList))
  encode before points :=
    let held := (labels before.flatten).2
    ((labels (held ++ points)).1.mapM toAscii).map fun pieces ↦ pieces.flatMap (· ++ [0x2E])

/-- The bytes of a label of ASCII characters. Any other label is refused here. -/
def asciiLabel (label : Points) : Except Fault Bytes :=
  if label.isEmpty ∨ 64 ≤ label.length then .error (.codec "label empty or too long".toList)
  else Encoding.ascii.encodeStrict label

/-- The encoding of domain names under its name. -/
def others : Codecs := fun name ↦
  if Encoding.normalName name = "idna".toList then some (domains asciiLabel) else none

end Codec

end TermKeys
