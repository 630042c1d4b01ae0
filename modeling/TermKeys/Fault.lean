import TermKeys.Encoding.Basic
import TermKeys.Json.Basic
import TermKeys.Path
import TermKeys.Text.Points

/-!
Everything that can go wrong, as causes, and the one place where a cause is put into words.
-/

set_option autoImplicit false

namespace TermKeys

/-- Why a path cannot be used as asked. -/
inductive FileFault
  | missing
  | notDirectory
  | isDirectory
  | nameTooLong
deriving DecidableEq, Repr

/-- The number that messages give to a fault of a path. -/
def FileFault.number : FileFault → Nat
  | missing => 2
  | notDirectory => 20
  | isDirectory => 21
  | nameTooLong => 36

/-- The words for a fault of a path. -/
def FileFault.words : FileFault → Text
  | missing => "No such file or directory".toList
  | notDirectory => "Not a directory".toList
  | isDirectory => "Is a directory".toList
  | nameTooLong => "File name too long".toList

/-- What an encoding was asked for. -/
inductive EncodingUse
  | encode
  | decode
  | openFile
deriving DecidableEq, Repr

/-- The word for the use of an encoding. -/
def EncodingUse.word : EncodingUse → Text
  | encode => "encode".toList
  | decode => "decode".toList
  | openFile => "open".toList

/-- What a stored settings document is if it is no object. -/
inductive DocumentKind
  | list
  | text
  | boolean
  | wholeNumber
  | number
  | nothing
deriving DecidableEq, Repr

/-- The name of a kind of document in messages. -/
def DocumentKind.name : DocumentKind → Text
  | list => "list".toList
  | text => "str".toList
  | boolean => "bool".toList
  | wholeNumber => "int".toList
  | number => "float".toList
  | nothing => "NoneType".toList

/-- The name of a container in messages. -/
def Container.name : Container → Text
  | list => "array".toList
  | object => "object".toList

/-- The causes of failure. -/
inductive Fault
  /-- A number that stands for no command. -/
  | commandCode (code : Int)
  /-- A key code between the last code point and the first special key. -/
  | keyCode
  /-- The name of no encoding. -/
  | unknownEncoding (name : Text)
  /-- The name of a coding that is not one of text. -/
  | notTextEncoding (name : Text) (use : EncodingUse)
  /-- An encoding name with a null character in it. -/
  | nullInEncoding
  /-- Code points that an encoding lacks, at the given first and last position. -/
  | unencodable (encoding : Encoding) (point : CodePoint) (firstAt lastAt : Nat)
  /-- A text or bytes that a further encoding refuses, in its own words. -/
  | codec (words : Text)
  /-- No entry is left to read. -/
  | exhausted
  /-- No search directory has a layout of this name. -/
  | layoutNotFound (name : Text) (searched : List Path)
  /-- A settings file that is missing or not a document. -/
  | settingsUnreadable (path : Path)
  /-- A settings document whose fields do not make settings. -/
  | settingsInvalid (path : Path)
  /-- A settings document that is no object. -/
  | settingsNotObject (kind : DocumentKind)
  /-- A settings document with too many containers inside each other, and the one too many. -/
  | settingsTooDeep (container : Container)
  /-- Settings that were never loaded, and no path to save them to. -/
  | settingsUnplaced
  /-- A path that cannot be used. -/
  | file (cause : FileFault) (path : Path)
  /-- A path with a null character in it. -/
  | nullInPath
  /-- A required word of a command line that is there only as a mark. -/
  | emptyOperand
  /-- The value of an option that is there only as a mark. -/
  | emptyValue
deriving DecidableEq, Repr

namespace Fault

/-- Where code points stand and what they are, for one or for several of them. -/
def unencodableSpan (point : CodePoint) (firstAt lastAt : Nat) : Text :=
  if firstAt = lastAt then
    "character '".toList ++ Text.numericEscape point.toNat ++ "' in position ".toList
      ++ Text.ofNat firstAt
  else
    "characters in position ".toList ++ Text.ofNat firstAt ++ ['-'] ++ Text.ofNat lastAt

/-- What an encoding has to say of the code points that it lacks. -/
def lackWords : Encoding → Text
  | .utf8 | .utf16le => "surrogates not allowed".toList
  | .latin1 => "ordinal not in range(256)".toList
  | .ascii => "ordinal not in range(128)".toList

/-- The first 400 bytes of a name. -/
def shortName (name : Text) : Text := Encoding.utf8.decode ((Utf8.encode name).take 400)

/-- The message of a fault. -/
def message : Fault → Text
  | commandCode code => Text.ofInt code ++ " is not a valid Command".toList
  | keyCode => "chr() arg not in range(0x110000)".toList
  | unknownEncoding name => "unknown encoding: ".toList ++ name
  | notTextEncoding name use =>
    ['\''] ++ shortName name ++ "' is not a text encoding; use codecs.".toList ++ use.word
      ++ "() to handle arbitrary codecs".toList
  | nullInEncoding => "embedded null character".toList
  | unencodable encoding point firstAt lastAt =>
    Text.quoted encoding.label ++ " codec can't encode ".toList
      ++ unencodableSpan point firstAt lastAt ++ ": ".toList ++ lackWords encoding
  | codec words => words
  | exhausted => "next_entry() called on an exhausted reader".toList
  | layoutNotFound name searched =>
    "No keyboard layout named ".toList ++ Text.quoted name ++ " in ".toList
      ++ if searched.isEmpty then "any directory".toList
        else List.intercalate ", ".toList (searched.map Path.text)
  | settingsUnreadable path => "Unable to read settings from ".toList ++ path.text
  | settingsInvalid path => "Invalid settings in ".toList ++ path.text
  | settingsNotObject .list => "list indices must be integers or slices, not str".toList
  | settingsNotObject kind =>
    ['\''] ++ kind.name ++ "' object does not support item assignment".toList
  | settingsTooDeep container =>
    "maximum recursion depth exceeded while decoding a JSON ".toList ++ container.name
      ++ " from a unicode string".toList
  | settingsUnplaced =>
    "No destination given for settings that were not loaded from a file".toList
  | file cause path =>
    "[Errno ".toList ++ Text.ofNat cause.number ++ "] ".toList ++ cause.words ++ ": ".toList
      ++ Text.quoted path.text
  | nullInPath => "embedded null byte".toList
  | emptyOperand => "'list' object has no attribute 'lower'".toList
  | emptyValue => "'list' object has no attribute 'open'".toList

end Fault

variable {α β : Type} {first : Except Fault α} {b : β}

/-- Two steps go through just when each does. -/
theorem bind_eq_ok_iff {next : α → Except Fault β} :
    first.bind next = .ok b ↔ ∃ a, first = .ok a ∧ next a = .ok b := by
  cases first with
  | error fault => simp [Except.bind]
  | ok a => simp [Except.bind]

theorem map_eq_ok_iff {f : α → β} : first.map f = .ok b ↔ ∃ a, first = .ok a ∧ f a = b := by
  cases first with
  | error fault => simp [Except.map]
  | ok a => simp [Except.map]

end TermKeys
