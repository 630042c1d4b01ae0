import TermKeys.Fault
import TermKeys.Unicode.Case

/-!
The commands that a key may trigger in place of sending output. Most have a spelling; the
others occur only as numbers.
-/

set_option autoImplicit false

namespace TermKeys

/-- A command of the terminal window. -/
inductive Command
  | none
  | send
  | scrollPageUp
  | scrollPageDown
  | scrollLineUp
  | scrollLineDown
  | scrollLock
  | scrollUpToTop
  | scrollDownToBottom
  | scrollPromptUp
  | scrollPromptDown
  | erase
deriving DecidableEq, Repr

namespace Command

/-- All commands. -/
def all : List Command :=
  [none, send, scrollPageUp, scrollPageDown, scrollLineUp, scrollLineDown, scrollLock,
   scrollUpToTop, scrollDownToBottom, scrollPromptUp, scrollPromptDown, erase]

/-- The number of a command. -/
def code : Command → Nat
  | none => 0
  | send => 1
  | scrollPageUp => 2
  | scrollPageDown => 4
  | scrollLineUp => 8
  | scrollLineDown => 16
  | scrollLock => 32
  | scrollUpToTop => 64
  | scrollDownToBottom => 128
  | scrollPromptUp => 256
  | scrollPromptDown => 512
  | erase => 1024

/-- The command of a number. -/
def ofCode (code : Int) : Except Fault Command :=
  match all.find? fun command ↦ (command.code : Int) = code with
  | some command => .ok command
  | Option.none => .error (.commandCode code)

/-- The spelling of a command that has one. -/
def text? : Command → Option Text
  | none | send | scrollLock => Option.none
  | scrollPageUp => some "scrollPageUp".toList
  | scrollPageDown => some "scrollPageDown".toList
  | scrollLineUp => some "scrollLineUp".toList
  | scrollLineDown => some "scrollLineDown".toList
  | scrollUpToTop => some "scrollUpToTop".toList
  | scrollDownToBottom => some "scrollDownToBottom".toList
  | scrollPromptUp => some "scrollPromptUp".toList
  | scrollPromptDown => some "scrollPromptDown".toList
  | erase => some "erase".toList

/-- The spellings in lower case, each with its command. -/
def names : List (Text × Command) :=
  all.filterMap fun command ↦ command.text?.map fun s ↦ (Unicode.lower s, command)

/-- The command of a name, read without regard to case. -/
def named? (name : Text) : Option Command := names.lookup (Unicode.lower name)

end Command

end TermKeys
