import TermKeys.Json.Basic

/-!
Writing JSON. Two styles are in use: settings are written in ASCII and over several lines, and
reports with every printable character as it is, on one line or over several.
-/

set_option autoImplicit false

namespace TermKeys.Json

/-- A style of writing. -/
structure Style where
  /-- Whether every character outside printable ASCII is written as an escape. -/
  asciiOnly : Bool
  /-- The spaces of one level, if each item is to stand on a line of its own. -/
  indent : Option Nat

/-- The style of settings files. -/
def Style.settings : Style := ⟨true, some 2⟩

/-- The style of reports on one line. -/
def Style.oneLine : Style := ⟨false, none⟩

/-- The style of reports over several lines. -/
def Style.severalLines : Style := ⟨false, some 2⟩

/-- The escape of a code unit of 16 bits. -/
def unitEscape (unit : Nat) : Text := '\\' :: 'u' :: Text.hexPadded 4 unit

/-- The escape of a character: that of its pair of units above U+FFFF. -/
def charEscape (c : Char) : Text :=
  if c.toNat < 0x10000 then unitEscape c.toNat
  else
    unitEscape (0xD800 + (c.toNat - 0x10000) / 0x400)
      ++ unitEscape (0xDC00 + (c.toNat - 0x10000) % 0x400)

/-- The letters of the control characters that have one. -/
def letters : List (Char × Char) :=
  [('\n', 'n'), ('\r', 'r'), ('\t', 't'), (Char.ofNat 8, 'b'), (Char.ofNat 12, 'f')]

/-- A character inside a string. -/
def writeChar (style : Style) (c : Char) : Text :=
  if c = '"' ∨ c = '\\' then ['\\', c]
  else match letters.lookup c with
    | some letter => ['\\', letter]
    | none =>
      if c.toNat < 0x20 ∨ (style.asciiOnly = true ∧ 0x7E < c.toNat) then charEscape c else [c]

/-- A string. -/
def writeText (style : Style) (text : Text) : Text :=
  '"' :: text.flatMap (writeChar style) ++ ['"']

/-- What stands before an item at the given level. -/
def lineBreak (style : Style) (level : Nat) : Text :=
  match style.indent with
  | some width => '\n' :: List.replicate (width * level) ' '
  | none => []

/-- What stands between the name of a field and its value. -/
def colon (style : Style) : Text := if style.indent.isSome then [':', ' '] else [':']

mutual

/-- A value at the given level. -/
def write (style : Style) (level : Nat) : Json → Text
  | null => "null".toList
  | bool true => "true".toList
  | bool false => "false".toList
  | whole value => Text.ofInt value
  | number value => value.text
  | string value => writeText style value
  | list [] => ['[', ']']
  | list (item :: rest) =>
    '[' :: lineBreak style (level + 1) ++ write style (level + 1) item
      ++ writeItems style (level + 1) rest ++ lineBreak style level ++ [']']
  | object [] => ['\x7b', '\x7d']
  | object ((name, value) :: rest) =>
    '\x7b' :: lineBreak style (level + 1) ++ writeText style name ++ colon style
      ++ write style (level + 1) value ++ writeFields style (level + 1) rest
      ++ lineBreak style level ++ ['\x7d']

/-- The items of a list after the first one. -/
def writeItems (style : Style) (level : Nat) : List Json → Text
  | [] => []
  | item :: rest =>
    ',' :: lineBreak style level ++ write style level item ++ writeItems style level rest

/-- The fields of an object after the first one. -/
def writeFields (style : Style) (level : Nat) : List (Text × Json) → Text
  | [] => []
  | (name, value) :: rest =>
    ',' :: lineBreak style level ++ writeText style name ++ colon style
      ++ write style level value ++ writeFields style level rest

end

/-- The text of a value. -/
def print (style : Style) (value : Json) : Text := write style 0 value

end TermKeys.Json
