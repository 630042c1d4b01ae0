import TermKeys.Encoding.Named
import TermKeys.FileTree
import TermKeys.Json.Parser
import TermKeys.Json.Printer
import TermKeys.Settings.Basic

/-!
Settings in files. A settings file holds a JSON object with one field for each setting. What makes
settings of the object is a converter that is not part of this program, and a few things are relied
on: it converts each field on its own and ignores fields of other names, a field that is not there
has its usual value if it has one, what goes wrong in any field is gathered into one fault, and the
items of a value that is to be a list go one by one to the program, which makes a path of a text and
of nothing else. Two things are left to the converter: which items a value has, and which text a
value is (`Converter`). A search directory with a tilde in front is read as one in a home directory.
-/

set_option autoImplicit false

namespace TermKeys

/-- The kind of a document that is no object. -/
def Json.kind? : Json → Option DocumentKind
  | .null => some .nothing
  | .bool _ => some .boolean
  | .whole _ => some .wholeNumber
  | .number _ => some .number
  | .string _ => some .text
  | .list _ => some .list
  | .object _ => none

/-- What a converter makes of single values. -/
structure Converter where
  /-- The items of a value that is to be a list. -/
  items? : Json → Option (List Json)
  /-- The text of a value that is to be one. -/
  text? : Json → Option Text

/-- Lists have the items that they list, and texts are themselves. -/
structure Converter.Lawful (converter : Converter) : Prop where
  items?_list : ∀ items, converter.items? (.list items) = some items
  text?_string : ∀ text, converter.text? (.string text) = some text

/-- The converter in use. A text has one item for each character, and an object the names of its
fields; any value is a text in the form in which it is shown. -/
def Converter.usual : Converter where
  items?
    | .list items => some items
    | .string text => some (text.map fun c ↦ .string [c])
    | .object fields => some (fields.map fun field ↦ .string field.1)
    | _ => none
  text? value := some value.display

theorem Converter.lawful_usual : usual.Lawful := ⟨fun _ ↦ rfl, fun _ ↦ rfl⟩

namespace Settings

/-- What settings depend on besides the files that they are loaded from. -/
structure Loader where
  homes : Homes
  /-- The most containers that a document may have inside each other, which is what the stack of
  the caller leaves room for. -/
  levels : Nat
  converter : Converter

variable (loader : Loader)

/-- The directory of an item: a text is a path, and nothing else is. -/
def Loader.directory? : Json → Option Path
  | .string text => (Path.ofText text).expandHome? loader.homes
  | _ => none

/-- The setting of a name as a text, or the given one if there is none. -/
def Loader.textField? (fields : List (Text × Json)) (name usual : Text) : Option Text :=
  match Json.field? name fields with
  | some value => loader.converter.text? value
  | none => some usual

/-- The settings of the fields of a document that was read from a path. -/
def ofFields? (path : Path) (fields : List (Text × Json)) : Option Settings := do
  let items ← (Json.field? "keytab_dirs".toList fields).bind loader.converter.items?
  let directories ← items.mapM loader.directory?
  let origin ← path.expandHome? loader.homes
  let usual := ofDirectories directories
  let defaultLayout ← loader.textField? fields "default_layout".toList usual.defaultLayout
  let inputEncoding ← loader.textField? fields "input_encoding".toList usual.inputEncoding
  let outputEncoding ← loader.textField? fields "output_encoding".toList usual.outputEncoding
  return {
    path := some origin
    directories := directories
    defaultLayout := defaultLayout
    inputEncoding := inputEncoding
    outputEncoding := outputEncoding }

/-- The settings of a document that was read from a path. -/
def ofDocument (path : Path) (document : Json) : Except Fault Settings :=
  match document with
  | .object fields =>
    match ofFields? loader path fields with
    | some settings => .ok settings
    | none => .error (.settingsInvalid path)
  | other => .error (.settingsNotObject (other.kind?.getD .nothing))

/-- The settings in the content of a file that was read from a path. -/
def ofContent (path : Path) (content : Bytes) : Except Fault Settings :=
  match Encoding.utf8.decodeStrict? content with
  | none => .error (.settingsUnreadable path)
  | some text =>
    match Json.parse loader.levels text with
    | .ok document => ofDocument loader path document
    | .error .malformed => .error (.settingsUnreadable path)
    | .error (.tooDeep container) => .error (.settingsTooDeep container)

/-- Loads settings from a file. -/
def load (tree : FileTree) (path : Path) : Except Fault Settings :=
  match tree.read path with
  | .ok content => ofContent loader path content
  | .error _ => .error (.settingsUnreadable path)

/-- The document of settings. Where they were loaded from is not part of it. -/
def document (settings : Settings) : Json :=
  .object [
    ("keytab_dirs".toList, .list (settings.directories.map fun path ↦ .string path.text)),
    ("default_layout".toList, .string settings.defaultLayout),
    ("input_encoding".toList, .string settings.inputEncoding),
    ("output_encoding".toList, .string settings.outputEncoding)]

/-- The content of a settings file. -/
def content (settings : Settings) : Bytes :=
  Utf8.encode (settings.document.print Json.Style.settings)

/-- Saves settings to a path, or to the file that they were loaded from. -/
def save (tree : FileTree) (settings : Settings) (path : Option Path) : Except Fault FileTree :=
  match path.or settings.path with
  | some path => tree.write path settings.content
  | none => .error .settingsUnplaced

end Settings

end TermKeys
