import Mathlib.Data.List.Basic
import TermKeys.FileTree

/-!
What stands in a directory. The names of a directory are those of the places right below its own
(`mem_namesIn`), and the path of such a name leads to that place, unless a name or the whole path is
too long (`isFile_join`).
-/

set_option autoImplicit false

namespace TermKeys

/-! ### Paths of names -/

namespace Path

/-- The path of a single name. -/
def ofName (name : FileName) : Path where
  anchor := .relative
  parts := [name.val]
  parts_names := by
    have h := name.property
    simp only [isFileName, Bool.and_eq_true] at h
    simpa using h.1.1

theorem ofText_name (name : FileName) : ofText name.val = ofName name := by
  have htext : (ofName name).text = name.val := by
    simp [text, ofName, Anchor.text]
  rw [← htext, ofText_text]

theorem parts_join_name (directory : Path) (name : FileName) :
    (directory.join (ofName name)).parts = directory.parts ++ [name.val] :=
  rfl

theorem mem_intercalate {separator c : Char} (h : c ≠ separator) {pieces : List Text} :
    c ∈ List.intercalate [separator] pieces ↔ ∃ piece ∈ pieces, c ∈ piece := by
  induction pieces with
  | nil => simp
  | cons first rest ih =>
    cases rest with
    | nil => simp
    | cons second others =>
      rw [List.intercalate_cons_cons, List.mem_append, List.mem_append, ih]
      simp [h]

/-- What a path is written with, slashes and dots apart, stands in its names. -/
theorem mem_text {path : Path} {c : Char} (hslash : c ≠ '/') (hdot : c ≠ '.') :
    c ∈ path.text ↔ ∃ part ∈ path.parts, c ∈ part := by
  unfold text
  split_ifs with h
  · simp [h.2, hdot]
  · have hanchor : c ∉ path.anchor.text := by
      cases path.anchor <;> simp [Anchor.text, hslash]
    rw [List.mem_append, mem_intercalate hslash]
    exact or_iff_right hanchor

end Path

namespace FileTree

variable {tree : FileTree} {directory : Path} {name : FileName}

/-- Whether a path and the names in it are short enough. -/
structure Fits (path : Path) : Prop where
  path_le : (Utf8.encode path.text).length ≤ pathLimit
  name_le : ∀ part ∈ path.parts, (Utf8.encode part).length ≤ nameLimit

/-- A regular file of the given name stands in a directory. -/
def HasFile (tree : FileTree) (directory : Path) (name : FileName) : Prop :=
  ∃ location content, tree.place? directory = .ok (some location) ∧
    tree.node? location = some .directory ∧
    tree.node? (location ++ [name]) = some (.file content)

theorem hasNull_join : hasNull (directory.join (Path.ofName name)) = hasNull directory := by
  have hname : Char.ofNat 0 ∉ name.val := by
    have h := name.property
    simp only [isFileName, Bool.and_eq_true, Bool.not_eq_true', List.contains_eq_mem,
      decide_eq_false_iff_not] at h
    exact h.2
  rw [Bool.eq_iff_iff, hasNull, hasNull, List.contains_iff_mem, List.contains_iff_mem,
    Path.mem_text (by decide) (by decide), Path.mem_text (by decide) (by decide),
    Path.parts_join_name]
  simp [or_and_right, exists_or, hname]

theorem walk_append (tree : FileTree) (here : Location) (parts more : List Text) :
    tree.walk here (parts ++ more) =
      (tree.walk here parts).bind fun place ↦ tree.walk place more := by
  induction parts generalizing here with
  | nil => rfl
  | cons part rest ih =>
    rw [List.cons_append, walk, walk]
    split
    · rfl
    · rfl
    · split_ifs
      · rfl
      · exact ih _

theorem follow_name (here : Location) (name : FileName) : follow here name.val = here ++ [name] := by
  rw [follow, dif_pos name.property]

/-- The way into a directory from where a path leads. -/
theorem walk_name (hname : (Utf8.encode name.val).length ≤ nameLimit) {here : Location}
    (hnode : tree.node? here = some .directory) :
    tree.walk here [name.val] = .ok (here ++ [name]) := by
  rw [walk, hnode]
  dsimp only
  rw [if_neg (Nat.not_lt_of_le hname), walk, follow_name]

theorem walk_error (tree : FileTree) {here : Location} (hnode : tree.node? here ≠ some .directory)
    (part : Text) :
    tree.walk here [part] = .error .missing ∨ tree.walk here [part] = .error .notDirectory := by
  rw [walk]
  cases hfound : tree.node? here with
  | none => exact Or.inl rfl
  | some node =>
    cases node with
    | file content => exact Or.inr rfl
    | directory => exact absurd hfound hnode

/-- The place of a path that is not refused is where its names lead. -/
theorem place?_eq_ok {path : Path} {place : Option Location} (h : tree.place? path = .ok place) :
    hasNull path = true ∧ place = none ∨
      hasNull path = false ∧
        (place = none ∧ (∃ cause, tree.walk (tree.startOf path) path.parts = .error cause ∧
            cause ≠ .nameTooLong) ∨
          ∃ location, tree.walk (tree.startOf path) path.parts = .ok location ∧
            place = some location) := by
  unfold place? at h
  split_ifs at h with hnull
  · exact Or.inl ⟨hnull, (Except.ok.inj h).symm⟩
  · refine Or.inr ⟨Bool.eq_false_iff.mpr hnull, ?_⟩
    unfold locate at h
    split_ifs at h
    cases hwalk : tree.walk (tree.startOf path) path.parts with
    | ok location =>
      rw [hwalk] at h
      exact Or.inr ⟨location, rfl, (Except.ok.inj h).symm⟩
    | error cause =>
      rw [hwalk] at h
      cases cause with
      | nameTooLong => exact nomatch h
      | missing | notDirectory | isDirectory =>
        exact Or.inl ⟨(Except.ok.inj h).symm, _, rfl, by decide⟩

/-- The path of a name in a directory leads right below the place of the directory, or it is too
long. -/
theorem place?_join {place : Option Location} (hplace : tree.place? directory = .ok place)
    (name : FileName) :
    tree.place? (directory.join (Path.ofName name)) =
        .ok (place.bind fun location ↦
          if tree.node? location = some .directory then some (location ++ [name]) else none) ∨
      tree.place? (directory.join (Path.ofName name)) =
          .error (.file .nameTooLong (directory.join (Path.ofName name))) ∧
        ¬ Fits (directory.join (Path.ofName name)) := by
  have hstart : tree.startOf (directory.join (Path.ofName name)) = tree.startOf directory := rfl
  unfold place?
  rw [hasNull_join]
  rcases place?_eq_ok hplace with ⟨hnull, rfl⟩ | ⟨hnull, hplace⟩
  · rw [if_pos hnull]
    exact Or.inl rfl
  rw [hnull, if_neg Bool.false_ne_true]
  unfold locate
  split_ifs with hlimit
  · exact Or.inr ⟨rfl, fun h ↦ absurd hlimit (Nat.not_lt_of_le h.path_le)⟩
  rw [hstart, Path.parts_join_name, walk_append]
  rcases hplace with ⟨rfl, cause, hwalk, hcause⟩ | ⟨location, hwalk, rfl⟩
  · rw [hwalk]
    left
    cases cause with
    | nameTooLong => exact absurd rfl hcause
    | missing | notDirectory | isDirectory => rfl
  · rw [hwalk, Except.bind, Option.bind_some]
    split_ifs with hnode
    · by_cases hname : (Utf8.encode name.val).length ≤ nameLimit
      · rw [walk_name hname hnode]
        exact Or.inl rfl
      · have hlong : tree.walk location [name.val] = .error .nameTooLong := by
          rw [walk, hnode]
          dsimp only
          rw [if_pos (Nat.lt_of_not_le hname)]
        rw [hlong]
        exact Or.inr ⟨rfl, fun h ↦ hname (h.name_le _ (List.mem_append_right _ List.mem_cons_self))⟩
    · rcases tree.walk_error hnode name.val with herror | herror <;> rw [herror] <;> exact Or.inl rfl

/-- Whether a regular file stands at the path of a name in a directory is told by the directory,
unless that path is too long. -/
theorem isFile_join {place : Option Location} (hplace : tree.place? directory = .ok place)
    (name : FileName) :
    (∃ found, tree.isFile (directory.join (Path.ofName name)) = .ok found ∧
        (found = true ↔ tree.HasFile directory name)) ∨
      tree.isFile (directory.join (Path.ofName name)) =
          .error (.file .nameTooLong (directory.join (Path.ofName name))) ∧
        ¬ Fits (directory.join (Path.ofName name)) := by
  unfold isFile
  rcases place?_join hplace name with hjoin | ⟨hjoin, hlong⟩
  · rw [hjoin]
    refine Or.inl ⟨_, rfl, ?_⟩
    cases place with
    | none => simp [HasFile, hplace]
    | some location =>
      rw [Option.bind_some]
      split_ifs with hnode
      · dsimp only [Option.bind_some]
        cases hfound : tree.node? (location ++ [name]) with
        | none => simp [HasFile, hplace, hfound]
        | some node => cases node <;> simp [HasFile, hplace, hfound, hnode]
      · simp [HasFile, hplace, hnode]
  · rw [hjoin]
    exact Or.inr ⟨rfl, hlong⟩

/-- A regular file is one that can be read. -/
theorem isFile_eq_true_iff {path : Path} :
    tree.isFile path = .ok true ↔ ∃ content, tree.read path = .ok content := by
  unfold isFile place? read
  split_ifs with hnull
  · simp [Except.map]
  · cases tree.locate path with
    | error cause => cases cause <;> simp [Except.map]
    | ok location =>
      cases hnode : tree.node? location with
      | none => simp [Except.map, hnode]
      | some node => cases node <;> simp [Except.map, hnode]

/-! ### The names in a directory -/

theorem isSome_node? {location : Location} (file : FileName) :
    (tree.node? (location ++ [file])).isSome = true ↔
      ∃ entry ∈ tree.nodes, entry.1 = location ++ [file] := by
  rw [node?, if_neg (by simp), List.lookup_isSome_iff]
  simp only [beq_iff_eq, @eq_comm _ (location ++ [file])]

/-- The names in a directory are those of the nodes right below it. -/
theorem mem_namesAt {location : Location} {text : Text} :
    text ∈ tree.namesAt location ↔
      ∃ file : FileName, file.val = text ∧ (tree.node? (location ++ [file])).isSome = true := by
  rw [namesAt, List.mem_filterMap]
  constructor
  · rintro ⟨entry, hentry, hname⟩
    split_ifs at hname with hlocation
    obtain ⟨file, hlast, rfl⟩ := Option.map_eq_some_iff.mp hname
    refine ⟨file, rfl, (isSome_node? file).mpr ⟨entry, hentry, ?_⟩⟩
    rw [← hlocation, List.dropLast_append_getLast? file hlast]
  · rintro ⟨file, rfl, hnode⟩
    obtain ⟨entry, hentry, heq⟩ := (isSome_node? file).mp hnode
    exact ⟨entry, hentry, by simp [heq]⟩

/-- The place of a directory whose names can be asked for is not refused. -/
theorem exists_place_of_namesIn {names : List Text} (h : tree.namesIn directory = .ok names) :
    ∃ place, tree.place? directory = .ok place := by
  unfold namesIn at h
  cases hplace : tree.place? directory with
  | error fault =>
    rw [hplace] at h
    exact nomatch h
  | ok place => exact ⟨place, rfl⟩

/-- The names in the directory at a path. -/
theorem mem_namesIn {names : List Text} (h : tree.namesIn directory = .ok names) {text : Text} :
    text ∈ names ↔ ∃ location, tree.place? directory = .ok (some location) ∧
      tree.node? location = some .directory ∧
      ∃ file : FileName, file.val = text ∧ (tree.node? (location ++ [file])).isSome = true := by
  obtain ⟨place, hplace⟩ := exists_place_of_namesIn h
  unfold namesIn at h
  rw [hplace] at h ⊢
  obtain rfl := Except.ok.inj h
  cases place with
  | none => simp
  | some location =>
    dsimp only
    split_ifs with hnode
    · rw [mem_namesAt]
      simp [hnode]
    · simp [hnode]

theorem HasFile.mem_namesIn {names : List Text} (h : tree.namesIn directory = .ok names)
    (hfile : tree.HasFile directory name) : name.val ∈ names := by
  obtain ⟨location, content, hplace, hnode, hfound⟩ := hfile
  exact (FileTree.mem_namesIn h).mpr ⟨location, hplace, hnode, name, rfl, by rw [hfound]; rfl⟩

end FileTree

end TermKeys
