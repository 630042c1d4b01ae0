import TermKeys.Text.Basic

/-!
File paths in the slash-separated form. A path is an anchor and a list of names: empty names
and single dots are dropped on reading, double dots are kept, and exactly two slashes in front
are an anchor of their own.
-/

set_option autoImplicit false

namespace TermKeys

/-- Where a path starts. -/
inductive Anchor
  | relative
  | root
  | doubleRoot
deriving DecidableEq, Repr

/-- The slashes that an anchor is written with. -/
def Anchor.text : Anchor → Text
  | relative => []
  | root => ['/']
  | doubleRoot => ['/', '/']

/-- Whether a text can be one of the names in a path: it is not empty, not a single dot, and
has no slash. -/
def isPathName (text : Text) : Bool := !text.isEmpty && text != ['.'] && !text.contains '/'

/-- A file path. -/
structure Path where
  anchor : Anchor
  parts : List Text
  parts_names : parts.all isPathName = true
deriving DecidableEq, Repr

/-- The home directories that a leading `~` stands for: the user's own and those of the
accounts that are known by name. -/
structure Homes where
  own : Text
  accounts : List (Text × Text)

namespace Path

/-- The anchor of a written path. -/
def anchorOf (text : Text) : Anchor :=
  match (text.takeWhile (· == '/')).length with
  | 0 => .relative
  | 2 => .doubleRoot
  | _ => .root

/-- Reads a path. -/
def ofText (text : Text) : Path where
  anchor := anchorOf text
  parts := (Text.splitOn '/' text).filter isPathName
  parts_names := by simp

/-- Writes a path; the empty relative path is a single dot. -/
def text (path : Path) : Text :=
  if path.anchor = .relative ∧ path.parts = [] then ['.']
  else path.anchor.text ++ List.intercalate ['/'] path.parts

/-- The second path as seen from the first one. -/
def join (base path : Path) : Path :=
  if path.anchor = .relative then
    { anchor := base.anchor
      parts := base.parts ++ path.parts
      parts_names := by simp [base.parts_names, path.parts_names] }
  else path

/-- The relative path of all names but the first. -/
def afterFirst (path : Path) : Path where
  anchor := .relative
  parts := path.parts.tail
  parts_names := by
    have h := path.parts_names
    cases hp : path.parts <;> simp_all

/-- The last name of a path, which is empty where there is none. -/
def name (path : Path) : Text := path.parts.getLast?.getD []

/-- A file name without its last extension. A dot at either end begins no extension. -/
def stemOf (name : Text) : Text :=
  match Text.splitLast? '.' name with
  | some (before, after) => if before.isEmpty || after.isEmpty then name else before
  | none => name

/-- The last name of a path without its last extension. -/
def stem (path : Path) : Text := stemOf path.name

/-- The home directory for a name that starts with `~`. -/
def homeOf? (homes : Homes) : Text → Option Text
  | [] => none
  | _ :: [] => some homes.own
  | _ :: user => homes.accounts.lookup user

/-- The path with a home directory put for a leading `~` or `~user`, or nothing if the home
directory is not known. -/
def expandHome? (homes : Homes) (path : Path) : Option Path :=
  match path.anchor, path.parts with
  | .relative, ('~' :: user) :: _ =>
    (homeOf? homes ('~' :: user)).bind fun home ↦
      if home.head? = some '~' then none
      else some ((ofText (if home.all (· == '/') then ['/'] else home)).join path.afterFirst)
  | _, _ => some path

theorem isPathName_iff {text : Text} :
    isPathName text = true ↔ text ≠ [] ∧ text ≠ ['.'] ∧ '/' ∉ text := by
  simp [isPathName, and_assoc]

/-- What the names in a path are like. -/
theorem isPathName_of_mem {path : Path} {part : Text} (h : part ∈ path.parts) :
    part ≠ [] ∧ part ≠ ['.'] ∧ '/' ∉ part :=
  isPathName_iff.1 (List.all_eq_true.1 path.parts_names part h)

/-- The names of a path as they are found between its slashes. -/
theorem filter_splitOn_intercalate (path : Path) :
    (Text.splitOn '/' (List.intercalate ['/'] path.parts)).filter isPathName = path.parts := by
  by_cases hne : path.parts = []
  · simp [hne, Text.splitOn, isPathName]
  · rw [Text.splitOn_intercalate hne fun part h ↦ (isPathName_of_mem h).2.2,
      List.filter_eq_self]
    exact List.all_eq_true.1 path.parts_names

/-- No slash stands in front of the names of a path. -/
theorem takeWhile_intercalate (path : Path) :
    (List.intercalate ['/'] path.parts).takeWhile (· == '/') = [] := by
  have hparts := @isPathName_of_mem path
  cases hp : path.parts with
  | nil => rfl
  | cons first rest =>
    obtain ⟨hne, -, hslash⟩ := hparts (hp ▸ List.mem_cons_self)
    cases first with
    | nil => exact absurd rfl hne
    | cons c more =>
      have hc : c ≠ '/' := fun h ↦ hslash (h ▸ List.mem_cons_self)
      cases rest <;> simp [List.intercalate_cons_cons, hc]

/-- A path that is written is read back. -/
theorem ofText_text (path : Path) : ofText path.text = path := by
  have hparts := filter_splitOn_intercalate path
  have hslashes := takeWhile_intercalate path
  obtain ⟨anchor, parts, hnames⟩ := path
  dsimp only at hparts hslashes
  cases anchor with
  | relative =>
    by_cases hp : parts = []
    · subst hp; rfl
    · simp [text, hp, ofText, anchorOf, Anchor.text, hparts, hslashes]
  | root =>
    simp [text, ofText, anchorOf, Anchor.text, Text.splitOn, hparts, hslashes, isPathName]
  | doubleRoot =>
    simp [text, ofText, anchorOf, Anchor.text, Text.splitOn, hparts, hslashes, isPathName]

end Path

end TermKeys
