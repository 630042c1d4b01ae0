import TermKeys.Encoding.Utf8
import TermKeys.Encoding.Utf16

/-!
The text encodings and the names they go by. Reading puts U+FFFD for each broken piece, and lenient
writing puts `?` for a character the encoding lacks. These four are all that is known for reading
layouts and for output, and every other name counts as unknown there. Saving takes any further
encodings as an argument.
-/

set_option autoImplicit false

namespace TermKeys

/-- An encoding of texts as bytes. -/
inductive Encoding
  | utf8
  | latin1
  | ascii
  | utf16le
deriving DecidableEq, Repr

namespace Encoding

/-- The characters of a byte string, with `none` for each broken piece. -/
def scan : Encoding → Bytes → List (Option Char)
  | utf8, bytes => Utf8.scan bytes
  | latin1, bytes => bytes.map fun b ↦ some (Char.ofNat b.toNat)
  | ascii, bytes => bytes.map fun b ↦ if b < 0x80 then some (Char.ofNat b.toNat) else none
  | utf16le, bytes => Utf16.scan bytes

/-- The text of a byte string, with U+FFFD for each broken piece. -/
def decode (encoding : Encoding) (bytes : Bytes) : Text :=
  (encoding.scan bytes).map fun piece ↦ piece.getD (Char.ofNat 0xFFFD)

/-- The text of a byte string in which nothing is broken. -/
def decodeStrict? (encoding : Encoding) (bytes : Bytes) : Option Text :=
  (encoding.scan bytes).mapM id

/-- The bytes of a character, unless the encoding lacks it. -/
def encodeChar? : Encoding → Char → Option Bytes
  | utf8, c => some (Utf8.encodeChar c)
  | latin1, c => if c.toNat < 0x100 then some [UInt8.ofNat c.toNat] else none
  | ascii, c => if c.toNat < 0x80 then some [UInt8.ofNat c.toNat] else none
  | utf16le, c => some (Utf16.encodeChar c)

/-- The bytes of a text, with the byte of `?` for each character the encoding lacks. -/
def encode (encoding : Encoding) (text : Text) : Bytes :=
  text.flatMap fun c ↦ (encoding.encodeChar? c).getD [0x3F]

/-- The name of an encoding as messages show it. -/
def label : Encoding → Text
  | utf8 => "utf-8".toList
  | latin1 => "latin-1".toList
  | ascii => "ascii".toList
  | utf16le => "utf-16-le".toList

/-- Names are compared in lower case and with each run of characters that are neither ASCII letters
nor digits as one underscore; such a run at either end does not count, and a period is kept. -/
def normalName (name : Text) : Text :=
  let marked := name.map fun c ↦ if c.isAlphanum || c == '.' then c.toLower else ' '
  List.intercalate ['_'] ((Text.splitOn ' ' marked).filter fun piece ↦ !piece.isEmpty)

/-- What goes by a name: an encoding, or a coding of bytes as bytes or of texts as texts. No text
can be read or written with one of those. -/
inductive Coding
  | text (encoding : Encoding)
  | notText
deriving DecidableEq, Repr

/-- The name of each coding itself, in normal form. -/
def ownNames : List (Text × Coding) :=
  [("utf_8".toList, .text utf8), ("latin_1".toList, .text latin1), ("ascii".toList, .text ascii),
   ("utf_16_le".toList, .text utf16le), ("hex_codec".toList, .notText),
   ("base64_codec".toList, .notText), ("bz2_codec".toList, .notText),
   ("zlib_codec".toList, .notText), ("quopri_codec".toList, .notText),
   ("uu_codec".toList, .notText), ("rot_13".toList, .notText)]

/-- The other names, in normal form. -/
def otherNames : List (Text × Coding) :=
  [("utf8".toList, .text utf8), ("u8".toList, .text utf8), ("utf".toList, .text utf8),
   ("utf8_ucs2".toList, .text utf8), ("utf8_ucs4".toList, .text utf8),
   ("cp65001".toList, .text utf8),
   ("latin1".toList, .text latin1), ("latin".toList, .text latin1), ("l1".toList, .text latin1),
   ("8859".toList, .text latin1), ("iso8859".toList, .text latin1),
   ("iso8859_1".toList, .text latin1), ("iso_8859_1".toList, .text latin1),
   ("iso_8859_1_1987".toList, .text latin1), ("iso_ir_100".toList, .text latin1),
   ("cp819".toList, .text latin1), ("ibm819".toList, .text latin1),
   ("csisolatin1".toList, .text latin1),
   ("us_ascii".toList, .text ascii), ("us".toList, .text ascii), ("646".toList, .text ascii),
   ("iso646_us".toList, .text ascii), ("iso_646.irv_1991".toList, .text ascii),
   ("iso_ir_6".toList, .text ascii), ("ansi_x3.4_1968".toList, .text ascii),
   ("ansi_x3_4_1968".toList, .text ascii), ("ansi_x3.4_1986".toList, .text ascii),
   ("cp367".toList, .text ascii), ("ibm367".toList, .text ascii), ("csascii".toList, .text ascii),
   ("utf_16le".toList, .text utf16le), ("unicodelittleunmarked".toList, .text utf16le),
   ("hex".toList, .notText), ("base64".toList, .notText), ("base_64".toList, .notText),
   ("bz2".toList, .notText), ("zip".toList, .notText), ("zlib".toList, .notText),
   ("quopri".toList, .notText), ("quoted_printable".toList, .notText),
   ("quotedprintable".toList, .notText), ("uu".toList, .notText), ("rot13".toList, .notText)]

/-- What goes by a name. In a name that is not a coding's own, a period may stand for an
underscore. -/
def named? (name : Text) : Option Coding :=
  let normal := normalName name
  let dotless := normal.map fun c ↦ if c = '.' then '_' else c
  (ownNames.lookup normal).or ((otherNames.lookup normal).or (otherNames.lookup dotless))

end Encoding

end TermKeys
