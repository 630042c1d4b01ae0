import TermKeys.Fault

/-!
A tree of files and directories, held as the list of its places. Finding the place of a path
walks along its names: every name but the last has to be that of a directory, and a double dot
goes back to the parent of the directory reached so far. Names and paths have a greatest length,
in bytes. There are no permissions and no symbolic links: every file may be read and written and
every directory listed, and what stands at a place stands there alone.
-/

set_option autoImplicit false

namespace TermKeys

/-- Whether a text can be the name of a file or directory: besides what no path name may hold,
it is not a double dot and has no null character. -/
def isFileName (text : Text) : Bool :=
  isPathName text && text != ['.', '.'] && !text.contains (Char.ofNat 0)

/-- The name of a file or directory. -/
abbrev FileName := { text : Text // isFileName text = true }

/-- The names that lead from the root to a place. -/
abbrev Location := List FileName

/-- What stands at a place. -/
inductive Node
  | file (content : Bytes)
  | directory
deriving DecidableEq, Repr

/-- The files and directories below the root, and the working directory. -/
structure FileTree where
  nodes : List (Location × Node)
  current : Location

namespace FileTree

/-- What stands at a place; the root is always a directory. -/
def node? (tree : FileTree) (location : Location) : Option Node :=
  if location = [] then some .directory else tree.nodes.lookup location

/-- Puts a node at a place, for the one that stood there. -/
def put (tree : FileTree) (location : Location) (node : Node) : FileTree :=
  { tree with nodes := (location, node) :: tree.nodes.filter fun entry ↦ entry.1 ≠ location }

theorem lookup_filter_ne (nodes : List (Location × Node)) (location other : Location) :
    (nodes.filter fun entry ↦ entry.1 ≠ location).lookup other =
      if other = location then none else nodes.lookup other := by
  induction nodes with
  | nil => simp
  | cons entry rest ih =>
    obtain ⟨place, node⟩ := entry
    by_cases hp : place = location
    · subst hp
      rw [List.filter_cons_of_neg (by simp), ih]
      by_cases ho : other = place
      · simp [ho]
      · simp [ho, List.lookup_cons, beq_eq_false_iff_ne.2 ho]
    · rw [List.filter_cons_of_pos (by simpa using hp), List.lookup_cons, List.lookup_cons, ih]
      by_cases ho : other = place
      · subst ho
        simp [hp]
      · simp [beq_eq_false_iff_ne.2 ho]

/-- Putting a node at a place changes what stands there and nowhere else. -/
theorem node?_put (tree : FileTree) {location : Location} (hne : location ≠ []) (node : Node)
    (other : Location) :
    (tree.put location node).node? other =
      if other = location then some node else tree.node? other := by
  unfold put node?
  rw [List.lookup_cons, lookup_filter_ne]
  by_cases h0 : other = []
  · simp [h0, hne.symm]
  · by_cases h : other = location
    · simp [h, hne]
    · simp [h0, h, beq_eq_false_iff_ne.2 h]

/-- The place that a name of a path leads to from a directory: a double dot leads to its
parent. -/
def follow (here : Location) (part : Text) : Location :=
  if h : isFileName part = true then here ++ [⟨part, h⟩] else here.dropLast

/-- Where a path starts. -/
def startOf (tree : FileTree) (path : Path) : Location :=
  if path.anchor = .relative then tree.current else []

/-- The most bytes that a name may have. -/
def nameLimit : Nat := 255

/-- The most bytes that a path may have. -/
def pathLimit : Nat := 4095

/-- The place that names lead to from a place. -/
def walk (tree : FileTree) : Location → List Text → Except FileFault Location
  | here, [] => .ok here
  | here, part :: rest =>
    match tree.node? here with
    | none => .error .missing
    | some (.file _) => .error .notDirectory
    | some .directory =>
      if nameLimit < (Utf8.encode part).length then .error .nameTooLong
      else walk tree (follow here part) rest

/-- The place of a path. -/
def locate (tree : FileTree) (path : Path) : Except FileFault Location :=
  if pathLimit < (Utf8.encode path.text).length then .error .nameTooLong
  else tree.walk (tree.startOf path) path.parts

/-- Whether a path has a null character, which no file has in its name. -/
def hasNull (path : Path) : Bool := path.text.contains (Char.ofNat 0)

/-- The place of a path, if it leads anywhere. One that is too long is a fault all the same. -/
def place? (tree : FileTree) (path : Path) : Except Fault (Option Location) :=
  if hasNull path then .ok none
  else match tree.locate path with
    | .ok location => .ok (some location)
    | .error .nameTooLong => .error (.file .nameTooLong path)
    | .error _ => .ok none

/-- Whether a regular file stands at a path. -/
def isFile (tree : FileTree) (path : Path) : Except Fault Bool :=
  (tree.place? path).map fun place ↦
    match place.bind tree.node? with
    | some (.file _) => true
    | _ => false

/-- The names in the directory at a place. -/
def namesAt (tree : FileTree) (location : Location) : List Text :=
  tree.nodes.filterMap fun entry ↦
    if entry.1.dropLast = location then entry.1.getLast?.map Subtype.val else none

/-- The names in the directory at a path; none if there is no directory. -/
def namesIn (tree : FileTree) (path : Path) : Except Fault (List Text) :=
  (tree.place? path).map fun place ↦
    match place with
    | none => []
    | some location =>
      if tree.node? location = some .directory then tree.namesAt location else []

/-- The content of the file at a path. -/
def read (tree : FileTree) (path : Path) : Except Fault Bytes :=
  if hasNull path then .error .nullInPath
  else match tree.locate path with
    | .error cause => .error (.file cause path)
    | .ok location =>
      match tree.node? location with
      | none => .error (.file .missing path)
      | some .directory => .error (.file .isDirectory path)
      | some (.file content) => .ok content

/-- The place of the file that a path names for writing, which may not be there yet. -/
def target (tree : FileTree) (path : Path) : Except Fault Location :=
  if hasNull path then .error .nullInPath
  else match tree.locate path with
    | .error cause => .error (.file cause path)
    | .ok location =>
      if tree.node? location = some .directory then .error (.file .isDirectory path)
      else .ok location

/-- The tree with the given content in the file at a path. -/
def write (tree : FileTree) (path : Path) (content : Bytes) : Except Fault FileTree :=
  (tree.target path).map fun location ↦ tree.put location (.file content)

/-- Makes a directory at a place, unless something stands there. -/
def addDirectoryAt (tree : FileTree) (location : Location) : FileTree :=
  if (tree.node? location).isSome then tree else tree.put location .directory

/-- Makes the directories on the way along names, and gives the place they lead to. -/
def addAlong : FileTree → Location → List Text → FileTree × Location
  | tree, here, [] => (tree, here)
  | tree, here, part :: rest =>
    let place := follow here part
    addAlong (tree.addDirectoryAt place) place rest

/-- Makes a directory at a path, with those that lead to it. -/
def addDirectory (tree : FileTree) (path : Path) : FileTree :=
  (addAlong tree (tree.startOf path) path.parts).1

/-- Puts a file at a path, with the directories that lead to it. -/
def addFile (tree : FileTree) (path : Path) (content : Bytes) : FileTree :=
  let (tree, here) := addAlong tree (tree.startOf path) path.parts.dropLast
  tree.put (follow here path.name) (.file content)

/-- A tree with nothing but its working directory. -/
def bare (current : Path) : FileTree :=
  let (tree, here) := addAlong ⟨[], []⟩ [] current.parts
  { tree with current := here }

end FileTree

end TermKeys
