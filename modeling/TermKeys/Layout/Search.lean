import TermKeys.Layout.Stored

/-!
Finding layouts by name. A layout is a file with the layout suffix in one of the search
directories; the first directory that has it wins. The listing is the set of names of all
directory entries with that suffix, in the order of code points.
-/

set_option autoImplicit false

namespace TermKeys.Layout

/-- The suffix of layout files. -/
def suffix : Text := ".keytab".toList

/-- Whether a text comes before another one in the order of code points, or is equal to it. -/
def textLe : Text → Text → Bool
  | [], _ => true
  | _ :: _, [] => false
  | a :: as, b :: bs => a.toNat < b.toNat || (a.toNat == b.toNat && textLe as bs)

/-- The names with the suffix in a directory, less their extension. -/
def namesIn (tree : FileTree) (directory : Path) : Except Fault (List Text) :=
  (tree.namesIn directory).map fun names ↦
    (names.filter fun name ↦ suffix.isSuffixOf name).map Path.stemOf

/-- The names of the layouts in the search directories, each once and in order. -/
def available (tree : FileTree) (settings : Settings) : Except Fault (List Text) :=
  (settings.directories.mapM (namesIn tree)).map fun names ↦
    names.flatten.eraseDups.mergeSort textLe

/-- The path that a layout name has in a directory. -/
def pathIn (name : Text) (directory : Path) : Path := directory.join (.ofText (name ++ suffix))

/-- The file of a layout name in the first of some directories that has it. -/
def findIn (tree : FileTree) (name : Text) : List Path → Except Fault (Option Path)
  | [] => .ok none
  | directory :: rest => do
    if ← tree.isFile (pathIn name directory) then return some (pathIn name directory)
    else findIn tree name rest

/-- The file of a layout name. -/
def locate (tree : FileTree) (name : Text) (settings : Settings) : Except Fault Path := do
  match ← findIn tree name settings.directories with
  | some path => return path
  | none => throw (.layoutNotFound name settings.directories)

/-- Loads the layout of a name. -/
def loadNamed (tree : FileTree) (name : Text) (settings : Settings) : Outcome Layout :=
  match locate tree name settings with
  | .error fault => ⟨.error fault, []⟩
  | .ok path => load tree path settings

end TermKeys.Layout
