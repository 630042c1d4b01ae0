import TermKeys.Layout.Stored
import TermKeys.Proofs.Layout.Groups
import TermKeys.Proofs.Reader.Utf8

/-!
Loading a layout. What a reader hands out of the lines of a file makes the layout
(`exists_of_ofLines`), so each of its bindings is read from one of them (`isRead_of_load`). These
are the bindings of all lines, unless one of them has a fault (`value_ofLines`). In UTF-8 loading
never fails on the lines (`value_ofLines_utf8`).
-/

set_option autoImplicit false

namespace TermKeys.Layout

/-- A tree with one layout file. -/
def treeOf (document : Text) : FileTree :=
  (FileTree.bare (.ofText "/".toList)).addFile (.ofText "/a.keytab".toList) (Utf8.encode document)

/-- A layout from lines holds what a reader of these hands out. -/
theorem exists_of_ofLines {path : Path} {lines : List RawLine} {settings : Settings}
    {layout : Layout} (h : (ofLines path lines settings).value = .ok layout) :
    ∃ reader bindings, (Reader.start settings lines).1.value = .ok reader ∧
      reader.takeAll.1.value = .ok bindings ∧
      layout = (empty path.stem reader.description).addAll bindings := by
  unfold ofLines at h
  dsimp only at h
  cases hstart : (Reader.start settings lines).1.value with
  | error fault =>
    rw [hstart] at h
    exact nomatch h
  | ok reader =>
    rw [hstart] at h
    dsimp only at h
    cases htaken : reader.takeAll.1.value with
    | error fault =>
      rw [htaken] at h
      exact nomatch h
    | ok bindings =>
      rw [htaken] at h
      exact ⟨reader, bindings, rfl, htaken, (Except.ok.inj h).symm⟩

/-- Each binding of a loaded layout is read from a line. -/
theorem isRead_of_load {tree : FileTree} {path : Path} {settings : Settings} {layout : Layout}
    (h : (load tree path settings).value = .ok layout) {binding : Binding}
    (hmem : binding ∈ layout.bindings) : binding.IsRead := by
  unfold load at h
  cases hread : tree.read path with
  | error fault =>
    rw [hread] at h
    exact nomatch h
  | ok content =>
    rw [hread] at h
    obtain ⟨reader, bindings, hstart, htaken, rfl⟩ := exists_of_ofLines h
    have hbinding : binding ∈ bindings :=
      (perm_bindings_addAll (empty path.stem reader.description) bindings).subset hmem
    exact ⟨settings, _, reader, hstart, Reader.yields_of_takeUpTo htaken hbinding⟩

/-- A layout from lines has their title and the bindings of all of them, if nothing stands in the
way of any. -/
theorem value_ofLines (path : Path) (lines : List RawLine) (settings : Settings) :
    (ofLines path lines settings).value =
      (Reader.allBindings ((RawLine.upToEnd lines).filterMap (Reader.entryOf? settings))).map
        fun bindings ↦ (empty path.stem (Reader.titleOf settings lines)).addAll bindings := by
  unfold ofLines
  dsimp only
  cases hstart : (Reader.start settings lines).1.value with
  | error fault =>
    rw [Reader.allBindings_of_start_error hstart]
    rfl
  | ok reader =>
    obtain ⟨hdescription, hall⟩ := Reader.takeAll_of_start hstart
    dsimp only
    rw [← hall, ← hdescription]
    cases reader.takeAll.1.value <;> rfl

/-- A layout from lines in UTF-8 has their title and the bindings of their key lines. -/
theorem value_ofLines_utf8 {settings : Settings} (h : settings.Utf8) (path : Path)
    (lines : List RawLine) :
    (ofLines path lines settings).value =
      .ok ((empty path.stem
          (Reader.descriptionOf ((RawLine.upToEnd lines).map RawLine.utf8Text))).addAll
        (Reader.bindingsOf ((RawLine.upToEnd lines).map RawLine.utf8Text))) := by
  rw [value_ofLines, Reader.filterMap_entryOf?_utf8 h, Reader.allBindings_map_ok,
    Reader.titleOf_utf8 h]
  rfl

end TermKeys.Layout
