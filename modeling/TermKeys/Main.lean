import TermKeys.CommandLine.Run

/-!
The program: `dump`, `entry` and `list`, each with the words of its command line after it.
Commands are functions of a tree of files, so the files that a command may ask for are read
beforehand. For `list` the paths of the files below the search directories come from standard
input, one on each line.
-/

set_option autoImplicit false

namespace TermKeys.Program

open CommandLine

/-- A text for printing. -/
def shown (text : Text) : String := String.ofList text

/-- The home directories: the user's own from the environment, the others from the accounts. -/
def homes : IO Homes := do
  let own := (← IO.getEnv "HOME").getD "/"
  let table ← try IO.FS.readFile "/etc/passwd" catch _ => pure ""
  let accounts := (Text.splitOn '\n' table.toList).filterMap fun line ↦
    match Text.splitOn ':' line with
    | [user, _, _, _, _, home, _] => some (user, home)
    | _ => none
  return ⟨own.toList, accounts⟩

/-- What settings depend on: the home directories, the room on the stack for the containers of a
document, and the converter in use. -/
def loader : IO Settings.Loader := return ⟨← homes, 986, .usual⟩

/-- The tree with the file at a path, if there is a readable one. -/
def addReal (tree : FileTree) (path : Path) : IO FileTree := do
  try
    let content ← IO.FS.readBinFile (shown path.text)
    return tree.addFile path content.toList
  catch _ => return tree

/-- The tree with the files at the given paths. -/
def addAllReal (tree : FileTree) (paths : List Path) : IO FileTree := paths.foldlM addReal tree

/-- The paths that a command may ask for, once the files it was given are in the tree. -/
def wanted (around : Surroundings) (form : Form) (words : List Text) : List Path :=
  match form.read words with
  | .error _ => []
  | .ok arguments =>
    match settingsFor around arguments with
    | .error _ => []
    | .ok settings =>
      let layout := (arguments.operand? 0).getD settings.defaultLayout
      .ofText layout :: settings.directories.map (Layout.pathIn layout)

/-- The settings file of a command line. -/
def settingsPaths (form : Form) (words : List Text) : List Path :=
  match form.read words with
  | .error _ => []
  | .ok arguments => ((arguments.value? settingsChoice).join.map Path.ofText).toList

/-- The tree that a command is run on. -/
def gather (loader : Settings.Loader) (form : Form) (words : List Text) : IO FileTree := do
  let tree ← addAllReal (FileTree.bare (.ofText "/".toList)) (settingsPaths form words)
  addAllReal tree (wanted ⟨loader, tree⟩ form words)

/-- The tree of the paths on standard input. -/
def gatherListed (tree : FileTree) : IO FileTree := do
  let listing ← IO.FS.readFile "/dev/stdin"
  return (Text.splitOn '\n' listing.toList).foldl
    (fun tree line ↦ if line.isEmpty then tree else tree.addFile (.ofText line) []) tree

/-- Prints what a command has to say and gives its exit status. -/
def finish (verbose : Bool) (run : Noted Run) : IO UInt32 := do
  if verbose then
    run.notes.forM fun note ↦ IO.eprintln (shown note.message)
  IO.print (shown run.value.output)
  match run.value.ending with
  | .done => return 0
  | .help =>
    IO.println "usage: termkeys (dump [LAYOUT] | entry CONDITION RESULT | list) [OPTION]..."
    return 0
  | .misuse message =>
    IO.eprintln s!"error: {shown message}"
    return 2
  | .fault fault =>
    IO.eprintln (shown fault.message)
    return 1

/-- Whether a command line asks for diagnostics. -/
def isVerbose (form : Form) (words : List Text) : Bool :=
  match form.read words with
  | .ok arguments => arguments.has verboseChoice
  | .error _ => false

end TermKeys.Program

open TermKeys CommandLine Program

def main (arguments : List String) : IO UInt32 := do
  let loader ← Program.loader
  let words := arguments.tail.map String.toList
  match arguments.head? with
  | some "dump" =>
    let tree ← gather loader dumpForm words
    finish (isVerbose dumpForm words) (dump ⟨loader, tree⟩ words)
  | some "entry" =>
    finish (isVerbose entryForm words) (entry ⟨loader, FileTree.bare (.ofText "/".toList)⟩ words)
  | some "list" =>
    let tree ← gatherListed (← gather loader listForm words)
    finish false (list ⟨loader, tree⟩ words)
  | _ =>
    IO.eprintln "error: the first word has to be dump, entry or list"
    return 2
