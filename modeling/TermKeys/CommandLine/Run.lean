import TermKeys.CommandLine.Arguments
import TermKeys.Layout.Search
import TermKeys.Report
import TermKeys.Settings.Stored

/-!
The three commands: to print the bindings of a layout, to decode a single binding, and to list
the layouts. A command is a function of the files and the words it is given; what it prints
before a fault stays printed.
-/

set_option autoImplicit false

namespace TermKeys.CommandLine

/-- How a command ends. -/
inductive Ending
  | done
  /-- With its usage in place of an answer. -/
  | help
  /-- With a remark on how it was called. -/
  | misuse (message : Text)
  | fault (fault : Fault)
deriving DecidableEq, Repr

/-- What a command prints, and how it ends. -/
structure Run where
  output : Text
  ending : Ending
deriving DecidableEq, Repr

/-- What a command may look at: its files, and what settings depend on besides. -/
structure Surroundings extends Settings.Loader where
  tree : FileTree

/-- A run that prints nothing. -/
def Run.silent (ending : Ending) : Noted Run := ⟨⟨[], ending⟩, []⟩

/-- The option for a settings file. -/
def settingsChoice : Choice := ⟨["--settings".toList], true⟩

/-- The option for reports in place of lines. -/
def jsonChoice : Choice := ⟨["--json".toList], false⟩

/-- The option for diagnostics. -/
def verboseChoice : Choice := ⟨["--verbose".toList, "-v".toList], false⟩

/-- The settings of a command line. -/
def settingsFor (around : Surroundings) (arguments : Arguments) : Except Fault Settings :=
  match arguments.value? settingsChoice with
  | some (some path) => Settings.load around.toLoader around.tree (.ofText path)
  | some none => .error .emptyValue
  | none => .ok (Settings.usual around.homes)

/-- The file of a layout that is given as a path or as a name. -/
def layoutFile (tree : FileTree) (layout : Text) (settings : Settings) : Except Fault Path := do
  if ← tree.isFile (.ofText layout) then return .ofText layout
  else Layout.locate tree layout settings

/-- A binding as one printed line. -/
def bindingLine (json : Bool) (encoding : Text) (binding : Binding) : Except Fault Text :=
  if json then binding.reportLine encoding else binding.line encoding

/-- Prints the bindings that a reader has left, at most so many. -/
def printBindings (json : Bool) (encoding : Text) : Nat → Reader → Noted Run
  | 0, _ => Run.silent .done
  | n + 1, reader =>
    if reader.hasNext then
      let (taken, reader) := reader.take
      match taken.value.bind (bindingLine json encoding) with
      | .error fault => ⟨⟨[], .fault fault⟩, taken.notes⟩
      | .ok line =>
        let others := printBindings json encoding n reader
        (others.map fun run ↦ { run with output := line ++ '\n' :: run.output }).after taken.notes
    else Run.silent .done

/-- Prints the bindings of a layout file. -/
def printLayout (tree : FileTree) (json : Bool) (path : Path) (settings : Settings) : Noted Run :=
  match tree.read path with
  | .error fault => Run.silent (.fault fault)
  | .ok content =>
    let (opened, _) := Reader.start settings (RawLine.ofBytes content)
    match opened.value with
    | .error fault => ⟨⟨[], .fault fault⟩, opened.notes⟩
    | .ok reader =>
      let title := if json then [] else Layout.titleLine reader.description
      let bindings := printBindings json settings.outputEncoding
        (reader.source.lines.length + 1) reader
      (bindings.map fun run ↦ { run with output := title ++ run.output }).after opened.notes

/-- The words for printing a layout. -/
def dumpForm : Form := ⟨[settingsChoice, jsonChoice, verboseChoice], [⟨"layout".toList, false⟩]⟩

/-- Reads the words of a command and goes on with them. -/
def withArguments (form : Form) (words : List Text) (next : Arguments → Noted Run) : Noted Run :=
  match form.read words with
  | .error misuse => Run.silent (.misuse misuse.message)
  | .ok arguments => if arguments.has Choice.help then Run.silent .help else next arguments

/-- Prints the bindings of a layout, which is the default one if none is named. A layout that
cannot be found is a misuse. -/
def dump (around : Surroundings) (words : List Text) : Noted Run :=
  withArguments dumpForm words fun arguments ↦
    match settingsFor around arguments with
    | .error fault => Run.silent (.fault fault)
    | .ok settings =>
      let layout := (arguments.operand? 0).getD settings.defaultLayout
      match layoutFile around.tree layout settings with
      | .error (.layoutNotFound name searched) =>
        Run.silent (.misuse (Fault.layoutNotFound name searched).message)
      | .error fault => Run.silent (.fault fault)
      | .ok path => printLayout around.tree (arguments.has jsonChoice) path settings

/-- The words for decoding a binding. -/
def entryForm : Form :=
  ⟨[verboseChoice], [⟨"condition".toList, true⟩, ⟨"result".toList, true⟩]⟩

/-- Prints the report of the binding of a condition and a result. -/
def entry (around : Surroundings) (words : List Text) : Noted Run :=
  withArguments entryForm words fun arguments ↦
    match arguments.operand? 0, arguments.operand? 1 with
    | some condition, some result =>
      (Binding.ofParts condition result (Settings.usual around.homes)).map fun binding ↦
        match binding.bind fun b ↦ b.report "utf-8".toList with
        | .error fault => ⟨[], .fault fault⟩
        | .ok report => ⟨report.print Json.Style.severalLines ++ ['\n'], .done⟩
    | _, _ => Run.silent (.fault .emptyOperand)

/-- The words for listing layouts. -/
def listForm : Form := ⟨[settingsChoice], []⟩

/-- Prints the names of the layouts in the search directories. -/
def list (around : Surroundings) (words : List Text) : Noted Run :=
  withArguments listForm words fun arguments ↦
    match (settingsFor around arguments).bind (Layout.available around.tree) with
    | .error fault => Run.silent (.fault fault)
    | .ok names => ⟨⟨names.flatMap (· ++ ['\n']), .done⟩, []⟩

end TermKeys.CommandLine
