import TermKeys.Path
import TermKeys.Text.Quoted

/-!
Diagnostics: what a reader has to say about text that it passes over. They never stop the
work, so a result carries them along in the order in which they arose.
-/

set_option autoImplicit false

namespace TermKeys

/-- A remark about the text that is read. -/
inductive Diagnostic
  /-- A line that is neither a title nor a key line. -/
  | unreadableLine (text : Text)
  /-- A descriptor item that names no modifier, mode or key. -/
  | unknownItem (item : Text)
  /-- A key name of several keys, of which only the first counts. -/
  | severalKeys (item : Text)
  /-- A command word that names no command, in the line of the given descriptor. -/
  | unknownCommand (descriptor word : Text)
  /-- A layout that was loaded from a file. -/
  | loaded (summary : Text) (path : Path)
deriving DecidableEq, Repr

/-- The message of a remark. -/
def Diagnostic.message : Diagnostic → Text
  | unreadableLine text =>
    "Line in keyboard translator file could not be parsed: ".toList ++ Text.quoted text
  | unknownItem item => "Unable to parse key binding item: ".toList ++ Text.quoted item
  | severalKeys item => "Unhandled key codes in sequence: ".toList ++ Text.quoted item
  | unknownCommand descriptor word =>
    "Key ".toList ++ Text.quoted descriptor ++ ", command ".toList ++ Text.quoted word
      ++ " not understood.".toList
  | loaded summary path => "Loaded ".toList ++ summary ++ " from ".toList ++ path.text

/-- A value with the diagnostics that arose on the way to it. -/
structure Noted (α : Type) where
  value : α
  notes : List Diagnostic
deriving Repr

namespace Noted

variable {α β : Type}

/-- Goes on with the value and keeps the diagnostics in order. -/
def bind (first : Noted α) (next : α → Noted β) : Noted β :=
  let second := next first.value
  ⟨second.value, first.notes ++ second.notes⟩

/-- Changes the value alone. -/
def map (f : α → β) (noted : Noted α) : Noted β := ⟨f noted.value, noted.notes⟩

/-- A value and diagnostics in front of those that it has. -/
def after (notes : List Diagnostic) (noted : Noted α) : Noted α :=
  ⟨noted.value, notes ++ noted.notes⟩

end Noted

end TermKeys
