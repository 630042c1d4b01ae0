import TermKeys.FileTree

/-!
A file that has just been written is read back. The way to its place leads through directories, and
the place itself is none, so putting the file there changes nothing on the way (`walk_put`).
-/

set_option autoImplicit false

namespace TermKeys.FileTree

variable {tree : FileTree} {location : Location}

theorem ne_nil_of_node? (h : tree.node? location ≠ some .directory) : location ≠ [] := by
  rintro rfl
  exact h rfl

/-- A way that leads to a place still does after a node is put where no directory was. -/
theorem walk_put (h : tree.node? location ≠ some .directory) (node : Node) {here place : Location}
    {parts : List Text} (hwalk : tree.walk here parts = .ok place) :
    (tree.put location node).walk here parts = .ok place := by
  induction parts generalizing here with
  | nil => exact hwalk
  | cons part rest ih =>
    rw [walk] at hwalk ⊢
    cases hnode : tree.node? here with
    | none =>
      rw [hnode] at hwalk
      exact nomatch hwalk
    | some found =>
      cases found with
      | file content =>
        rw [hnode] at hwalk
        exact nomatch hwalk
      | directory =>
        have hne : here ≠ location := by
          rintro rfl
          exact h hnode
        rw [node?_put tree (ne_nil_of_node? h), if_neg hne, hnode]
        rw [hnode] at hwalk
        dsimp only at hwalk ⊢
        split at hwalk
        · exact nomatch hwalk
        · next hlimit =>
          rw [if_neg hlimit]
          exact ih hwalk

/-- What is written to the place of a path is read from that path. -/
theorem read_put {path : Path} (h : tree.target path = .ok location) (content : Bytes) :
    (tree.put location (.file content)).read path = .ok content := by
  unfold target at h
  split at h
  · exact nomatch h
  · next hnull =>
    cases hlocate : tree.locate path with
    | error cause =>
      rw [hlocate] at h
      exact nomatch h
    | ok found =>
      rw [hlocate] at h
      dsimp only at h
      split at h
      · exact nomatch h
      · next hnode =>
        obtain rfl := Except.ok.inj h
        have hplace : (tree.put found (.file content)).locate path = .ok found := by
          unfold locate at hlocate ⊢
          split at hlocate
          · exact nomatch hlocate
          · next hlimit =>
            rw [if_neg hlimit]
            exact walk_put hnode _ hlocate
        rw [read, if_neg hnull, hplace]
        dsimp only
        rw [node?_put tree (ne_nil_of_node? hnode), if_pos rfl]

end TermKeys.FileTree
