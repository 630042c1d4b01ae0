import TermKeys.Encoding.Strict
import TermKeys.Unicode.Alphanumeric
import TermKeys.Unicode.Case

/-!
Key codes and their names. A key that prints a character has the code point of its upper case
for a code; the other keys begin at `firstSpecial`. Names are read without regard to case, and
each key has one spelling in which it is written.
-/

set_option autoImplicit false

namespace TermKeys

/-- A key with a name. -/
structure NamedKey where
  code : Nat
  name : Text
  /-- The spelling used in place of the name, if there is one. -/
  short : Option Text
deriving DecidableEq, Repr

namespace Key

open Unicode

/-- The code of the first key that prints no character. -/
def firstSpecial : Nat := 0x1000000

/-- The code that stands for a key nothing is known of. -/
def unknown : Nat := 0x1FFFFFF

/-- The code of the comma. -/
def comma : Nat := 0x2C

/-- All keys with a name. -/
def named : List NamedKey :=
  [⟨0x1FFFFFF, "Unknown".toList, none⟩, ⟨0x1000000, "Escape".toList, some "Esc".toList⟩,
   ⟨0x1000001, "Tab".toList, none⟩, ⟨0x1000002, "Backtab".toList, none⟩,
   ⟨0x1000003, "Backspace".toList, none⟩, ⟨0x1000004, "Return".toList, none⟩,
   ⟨0x1000005, "Enter".toList, none⟩, ⟨0x1000006, "Insert".toList, some "Ins".toList⟩,
   ⟨0x1000007, "Delete".toList, some "Del".toList⟩, ⟨0x1000008, "Pause".toList, none⟩,
   ⟨0x1000009, "Print".toList, none⟩, ⟨0x100000A, "Sysreq".toList, some "SysReq".toList⟩,
   ⟨0x100000B, "Clear".toList, none⟩, ⟨0x1000010, "Home".toList, none⟩,
   ⟨0x1000011, "End".toList, none⟩, ⟨0x1000012, "Left".toList, none⟩,
   ⟨0x1000013, "Up".toList, none⟩, ⟨0x1000014, "Right".toList, none⟩,
   ⟨0x1000015, "Down".toList, none⟩, ⟨0x1000016, "Pageup".toList, some "PgUp".toList⟩,
   ⟨0x1000017, "Pagedown".toList, some "PgDown".toList⟩, ⟨0x1000020, "Shift".toList, none⟩,
   ⟨0x1000021, "Control".toList, none⟩, ⟨0x1000022, "Meta".toList, none⟩,
   ⟨0x1000023, "Alt".toList, none⟩, ⟨0x1000024, "Capslock".toList, some "CapsLock".toList⟩,
   ⟨0x1000025, "Numlock".toList, some "NumLock".toList⟩,
   ⟨0x1000026, "Scrolllock".toList, some "scrollLock".toList⟩, ⟨0x1000030, "F1".toList, none⟩,
   ⟨0x1000031, "F2".toList, none⟩, ⟨0x1000032, "F3".toList, none⟩, ⟨0x1000033, "F4".toList, none⟩,
   ⟨0x1000034, "F5".toList, none⟩, ⟨0x1000035, "F6".toList, none⟩, ⟨0x1000036, "F7".toList, none⟩,
   ⟨0x1000037, "F8".toList, none⟩, ⟨0x1000038, "F9".toList, none⟩,
   ⟨0x1000039, "F10".toList, none⟩, ⟨0x100003A, "F11".toList, none⟩,
   ⟨0x100003B, "F12".toList, none⟩, ⟨0x100003C, "F13".toList, none⟩,
   ⟨0x100003D, "F14".toList, none⟩, ⟨0x100003E, "F15".toList, none⟩,
   ⟨0x100003F, "F16".toList, none⟩, ⟨0x1000040, "F17".toList, none⟩,
   ⟨0x1000041, "F18".toList, none⟩, ⟨0x1000042, "F19".toList, none⟩,
   ⟨0x1000043, "F20".toList, none⟩, ⟨0x1000044, "F21".toList, none⟩,
   ⟨0x1000045, "F22".toList, none⟩, ⟨0x1000046, "F23".toList, none⟩,
   ⟨0x1000047, "F24".toList, none⟩, ⟨0x1000048, "F25".toList, none⟩,
   ⟨0x1000049, "F26".toList, none⟩, ⟨0x100004A, "F27".toList, none⟩,
   ⟨0x100004B, "F28".toList, none⟩, ⟨0x100004C, "F29".toList, none⟩,
   ⟨0x100004D, "F30".toList, none⟩, ⟨0x100004E, "F31".toList, none⟩,
   ⟨0x100004F, "F32".toList, none⟩, ⟨0x1000050, "F33".toList, none⟩,
   ⟨0x1000051, "F34".toList, none⟩, ⟨0x1000052, "F35".toList, none⟩,
   ⟨0x1000053, "Super_l".toList, some "SuperL".toList⟩,
   ⟨0x1000054, "Super_r".toList, some "SuperR".toList⟩, ⟨0x1000055, "Menu".toList, none⟩,
   ⟨0x1000056, "Hyper_l".toList, some "HyperL".toList⟩,
   ⟨0x1000057, "Hyper_r".toList, some "HyperR".toList⟩, ⟨0x1000058, "Help".toList, none⟩,
   ⟨0x20, "Space".toList, none⟩, ⟨0x21, "Exclam".toList, none⟩, ⟨0x22, "Quotedbl".toList, none⟩,
   ⟨0x23, "Numbersign".toList, none⟩, ⟨0x24, "Dollar".toList, none⟩,
   ⟨0x25, "Percent".toList, none⟩, ⟨0x26, "Ampersand".toList, none⟩,
   ⟨0x27, "Apostrophe".toList, none⟩, ⟨0x28, "Parenleft".toList, none⟩,
   ⟨0x29, "Parenright".toList, none⟩, ⟨0x2A, "Asterisk".toList, none⟩,
   ⟨0x2B, "Plus".toList, none⟩, ⟨0x2C, "Comma".toList, none⟩, ⟨0x2D, "Minus".toList, none⟩,
   ⟨0x2E, "Period".toList, none⟩, ⟨0x2F, "Slash".toList, none⟩, ⟨0x30, "0".toList, none⟩,
   ⟨0x31, "1".toList, none⟩, ⟨0x32, "2".toList, none⟩, ⟨0x33, "3".toList, none⟩,
   ⟨0x34, "4".toList, none⟩, ⟨0x35, "5".toList, none⟩, ⟨0x36, "6".toList, none⟩,
   ⟨0x37, "7".toList, none⟩, ⟨0x38, "8".toList, none⟩, ⟨0x39, "9".toList, none⟩,
   ⟨0x3A, "Colon".toList, none⟩, ⟨0x3B, "Semicolon".toList, none⟩, ⟨0x3C, "Less".toList, none⟩,
   ⟨0x3D, "Equal".toList, none⟩, ⟨0x3E, "Greater".toList, none⟩, ⟨0x3F, "Question".toList, none⟩,
   ⟨0x40, "At".toList, none⟩, ⟨0x41, "A".toList, none⟩, ⟨0x42, "B".toList, none⟩,
   ⟨0x43, "C".toList, none⟩, ⟨0x44, "D".toList, none⟩, ⟨0x45, "E".toList, none⟩,
   ⟨0x46, "F".toList, none⟩, ⟨0x47, "G".toList, none⟩, ⟨0x48, "H".toList, none⟩,
   ⟨0x49, "I".toList, none⟩, ⟨0x4A, "J".toList, none⟩, ⟨0x4B, "K".toList, none⟩,
   ⟨0x4C, "L".toList, none⟩, ⟨0x4D, "M".toList, none⟩, ⟨0x4E, "N".toList, none⟩,
   ⟨0x4F, "O".toList, none⟩, ⟨0x50, "P".toList, none⟩, ⟨0x51, "Q".toList, none⟩,
   ⟨0x52, "R".toList, none⟩, ⟨0x53, "S".toList, none⟩, ⟨0x54, "T".toList, none⟩,
   ⟨0x55, "U".toList, none⟩, ⟨0x56, "V".toList, none⟩, ⟨0x57, "W".toList, none⟩,
   ⟨0x58, "X".toList, none⟩, ⟨0x59, "Y".toList, none⟩, ⟨0x5A, "Z".toList, none⟩,
   ⟨0x5B, "Bracketleft".toList, none⟩, ⟨0x5C, "Backslash".toList, none⟩,
   ⟨0x5D, "Bracketright".toList, none⟩, ⟨0x5E, "Asciicircum".toList, none⟩,
   ⟨0x5F, "Underscore".toList, none⟩, ⟨0x60, "Quoteleft".toList, none⟩,
   ⟨0x7B, "Braceleft".toList, none⟩, ⟨0x7C, "Bar".toList, none⟩,
   ⟨0x7D, "Braceright".toList, none⟩, ⟨0x7E, "Asciitilde".toList, none⟩]

/-- The named key of a code. -/
def ofCode? (code : Int) : Option NamedKey := named.find? fun key ↦ (key.code : Int) = code

/-- The spelling in which a named key is written. -/
def spelling (key : NamedKey) : Text := key.short.getD key.name

/-- The spellings that are read, in lower case, each with the code it stands for. Nothing
stands for the unknown key. -/
def spellings : List (Text × Nat) :=
  (named.filter fun key ↦ key.code != unknown).flatMap fun key ↦
    (lower key.name, key.code) :: (key.short.map fun short ↦ (lower short, key.code)).toList

/-- The name of a key code: its spelling, else the code point with that number, else the code in
hexadecimal digits. Below the special keys there are more codes than code points, and some of these
are surrogates. -/
def points (code : Int) : Except Fault Points :=
  match ofCode? code with
  | some key => .ok (Text.points (spelling key))
  | none =>
    if 0 < code ∧ code < firstSpecial then
      match CodePoint.ofNat? code.toNat with
      | some point => .ok [point]
      | none => .error .keyCode
    else .ok (Text.points ('0' :: 'x' :: Text.hexOfInt code))

/-- The written form of a key code. A name that is a surrogate has none. -/
def text (code : Int) : Except Fault Text := (points code).bind Points.characters

/-- The code of one key: that of the upper case for a single character, else that of the name. -/
def codeOf? : Text → Option Nat
  | [] => none
  | [c] => some (upperOne c).toNat
  | unit => spellings.lookup (lower unit)

/-- The codes of several keys with commas between them; nothing if one of them is unknown. -/
def codes? (keys : Text) : Option (List Nat) :=
  if keys = [','] then some [comma]
  else (Text.splitOn ',' keys).mapM fun unit ↦ codeOf? (Text.trim unit)

/-- The codes of several keys, and no codes if one of them is unknown. -/
def codes (keys : Text) : List Nat := (codes? keys).getD []

end Key

end TermKeys
