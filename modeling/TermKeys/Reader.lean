import TermKeys.Binding
import TermKeys.Descriptor
import TermKeys.Line
import TermKeys.Settings.Basic

/-!
Reading the bindings of a layout from its lines. A reader holds the next binding ready and asks
for further lines only when that binding is taken. A line that cannot be decoded or whose text
cannot be encoded is passed over with a fault, and the binding that was to be taken stays.
-/

set_option autoImplicit false

namespace TermKeys

/-- A line as a source hands it out: a text, or bytes to decode. -/
inductive RawLine
  | text (line : Text)
  | bytes (line : Bytes)
deriving DecidableEq, Repr

namespace RawLine

/-- Whether a line is empty, without even a line end. Such a line is the end of the source. -/
def isEmpty : RawLine → Bool
  | text line => List.isEmpty line
  | bytes line => List.isEmpty line

/-- The text of a line in the given encoding. -/
def decode (encoding : Text) : RawLine → Except Fault Text
  | text line => .ok line
  | bytes line => Encoding.decodeAs encoding line

/-- The lines of a text. -/
def ofText (document : Text) : List RawLine := (Text.linesBy '\n' document).map text

/-- The lines of a byte string. -/
def ofBytes (document : Bytes) : List RawLine := (Text.linesBy 0x0A document).map bytes

end RawLine

/-- What is left of the lines that a reader draws on. -/
structure Source where
  lines : List RawLine
  /-- How often a line was asked for, the answer that there is none included. -/
  asked : Nat
  /-- Whether the end has been seen, after which nothing is asked for. -/
  ended : Bool
deriving DecidableEq, Repr

/-- What a reading step gives: a value or a fault, and the diagnostics up to there. -/
abbrev Outcome (α : Type) := Noted (Except Fault α)

/-- A reader between two bindings. -/
structure Reader where
  settings : Settings
  description : Text
  /-- The binding that is taken next; none at the end. -/
  next : Option Binding
  source : Source

namespace Reader

/-- The command of a word, with a remark and no command if it names none. -/
def commandOf (descriptor word : Text) : Noted Command :=
  match Command.named? word with
  | some command => ⟨command, []⟩
  | none => ⟨.none, [.unknownCommand descriptor word]⟩

/-- The binding of a key line. -/
def bindingOf (settings : Settings) (descriptor : Text) (action : Action) : Outcome Binding :=
  (Descriptor.decode (Unicode.lower descriptor) {}).bind fun condition ↦
    match action with
    | .send text =>
      ⟨(Encoding.encodeAs settings.outputEncoding text).map fun bytes ↦
        { condition with command := .none, text := bytes }, []⟩
    | .command word =>
      (commandOf descriptor word).map fun command ↦
        .ok { condition with command := command, text := [] }

/-- Reads lines up to the next key line, given how often a line has been asked for. -/
def nextKey (settings : Settings) : List RawLine → Nat → Outcome (Option Binding) × Source
  | [], asked => (⟨.ok none, []⟩, ⟨[], asked + 1, true⟩)
  | line :: rest, asked =>
    if line.isEmpty then (⟨.ok none, []⟩, ⟨rest, asked + 1, true⟩)
    else match line.decode settings.inputEncoding with
      | .error fault => (⟨.error fault, []⟩, ⟨rest, asked + 1, false⟩)
      | .ok text =>
        match Line.read text with
        | .key descriptor action =>
          ((bindingOf settings descriptor action).map (·.map some), ⟨rest, asked + 1, false⟩)
        | other =>
          let (outcome, source) := nextKey settings rest (asked + 1)
          (outcome.after other.notes, source)

/-- Reads lines up to the first key line. A title before that is the description, and no
further title counts. -/
def opening (settings : Settings) :
    List RawLine → Nat → Outcome (Text × Option Binding) × Source
  | [], asked => (⟨.ok ([], none), []⟩, ⟨[], asked + 1, true⟩)
  | line :: rest, asked =>
    if line.isEmpty then (⟨.ok ([], none), []⟩, ⟨rest, asked + 1, true⟩)
    else match line.decode settings.inputEncoding with
      | .error fault => (⟨.error fault, []⟩, ⟨rest, asked + 1, false⟩)
      | .ok text =>
        match Line.read text with
        | .key descriptor action =>
          ((bindingOf settings descriptor action).map (·.map fun b ↦ ([], some b)),
            ⟨rest, asked + 1, false⟩)
        | .title title =>
          let (outcome, source) := nextKey settings rest (asked + 1)
          (outcome.map (·.map fun next ↦ (title, next)), source)
        | other =>
          let (outcome, source) := opening settings rest (asked + 1)
          (outcome.after other.notes, source)

/-- A reader of the given lines, which has read the title and the first binding, and what is
left of the lines even if there was a fault. -/
def start (settings : Settings) (lines : List RawLine) : Outcome Reader × Source :=
  let (outcome, source) := opening settings lines 0
  (outcome.map (·.map fun (description, next) ↦ ⟨settings, description, next, source⟩), source)

/-- Whether a binding is left. -/
def hasNext (reader : Reader) : Bool := reader.next.isSome

/-- Takes the next binding, after reading on to the one that follows it. -/
def take (reader : Reader) : Outcome Binding × Reader :=
  match reader.next with
  | none => (⟨.error .exhausted, []⟩, reader)
  | some binding =>
    if reader.source.ended then (⟨.ok binding, []⟩, { reader with next := none })
    else
      let (outcome, source) := nextKey reader.settings reader.source.lines reader.source.asked
      match outcome.value with
      | .error fault => (⟨.error fault, outcome.notes⟩, { reader with source := source })
      | .ok next =>
        (⟨.ok binding, outcome.notes⟩, { reader with next := next, source := source })

/-- Takes bindings until none is left or there is a fault, at most the given number of them. -/
def takeUpTo : Nat → Reader → Outcome (List Binding) × Reader
  | 0, reader => (⟨.ok [], []⟩, reader)
  | n + 1, reader =>
    if reader.hasNext then
      let (first, reader) := reader.take
      match first.value with
      | .error fault => (⟨.error fault, first.notes⟩, reader)
      | .ok binding =>
        let (others, reader) := takeUpTo n reader
        ((others.map (·.map (binding :: ·))).after first.notes, reader)
    else (⟨.ok [], []⟩, reader)

/-- Takes all bindings that are left. There are no more of them than lines, the one held ready
apart. -/
def takeAll (reader : Reader) : Outcome (List Binding) × Reader :=
  takeUpTo (reader.source.lines.length + 1) reader

end Reader

/-- The document that an ad hoc binding is read from. A result that names a command is a
command, and any other is text. -/
def Binding.document (condition result : Text) : Text :=
  let action := if (Command.named? result).isSome then result else '"' :: result ++ ['"']
  "keyboard \"temporary\"\nkey ".toList ++ condition ++ " : ".toList ++ action

/-- The binding of a condition and a result as they would stand in a layout file; the one that
stands for none if they make no key line. -/
def Binding.ofParts (condition result : Text) (settings : Settings) : Outcome Binding :=
  let (opened, _) := Reader.start settings (RawLine.ofText (Binding.document condition result))
  match opened.value with
  | .error fault => ⟨.error fault, opened.notes⟩
  | .ok reader =>
    if reader.hasNext then reader.take.1.after opened.notes
    else ⟨.ok Binding.null, opened.notes⟩

end TermKeys
