import TermKeys.Fault

/-!
Reading and writing with an encoding that is given by name. The name is looked up only when
it is needed, so a bad one does no harm before that; in particular there is nothing to look
up for reading no bytes.
-/

set_option autoImplicit false

namespace TermKeys.Encoding

/-- The encoding of a name, for the given use. -/
def find (use : EncodingUse) (name : Text) : Except Fault Encoding :=
  if name.contains (Char.ofNat 0) then .error .nullInEncoding
  else match named? name with
    | some (.text encoding) => .ok encoding
    | some .notText => .error (.notTextEncoding name use)
    | none => .error (.unknownEncoding name)

/-- The text of a byte string in the encoding of a name. -/
def decodeAs (name : Text) (bytes : Bytes) : Except Fault Text :=
  if name.contains (Char.ofNat 0) then .error .nullInEncoding
  else if bytes.isEmpty then .ok []
  else (find .decode name).map fun encoding ↦ encoding.decode bytes

/-- The bytes of a text in the encoding of a name, with `?` for what it lacks. -/
def encodeAs (name : Text) (text : Text) : Except Fault Bytes :=
  (find .encode name).map fun encoding ↦ encoding.encode text

end TermKeys.Encoding
