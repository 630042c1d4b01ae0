import TermKeys.Text.Basic

/-!
Where the lines of a document end: at each terminator, and at the end of what is left without one.
-/

set_option autoImplicit false

namespace TermKeys.Text

variable {α : Type} [DecidableEq α] {terminator : α}

/-- What stands in front of a document and holds no terminator belongs to its first line. -/
theorem linesBy_append_of_not_mem {front : List α} (hne : front ≠ []) (hfree : terminator ∉ front)
    (content : List α) :
    linesBy terminator (front ++ content) =
      match linesBy terminator content with
      | [] => [front]
      | line :: lines => (front ++ line) :: lines := by
  induction front with
  | nil => exact absurd rfl hne
  | cons a rest ih =>
    rw [List.mem_cons, not_or] at hfree
    rw [List.cons_append, linesBy, if_neg (Ne.symm hfree.1)]
    by_cases hrest : rest = []
    · subst hrest
      rfl
    · rw [ih hrest hfree.2]
      cases linesBy terminator content <;> rfl

theorem exists_linesBy_cons {a : α} (h : a ≠ terminator) (content : List α) :
    ∃ line lines, linesBy terminator (a :: content) = (a :: line) :: lines := by
  rw [linesBy, if_neg h]
  cases linesBy terminator content with
  | nil => exact ⟨[], [], rfl⟩
  | cons line lines => exact ⟨line, lines, rfl⟩

theorem mem_of_mem_linesBy {content line : List α} (h : line ∈ linesBy terminator content) {a : α}
    (ha : a ∈ line) : a ∈ content := by
  rw [← flatten_linesBy terminator content]
  exact List.mem_flatten_of_mem h ha

/-- A terminator ends the first line. -/
theorem linesBy_append_terminator {line : List α} (hfree : terminator ∉ line) (content : List α) :
    linesBy terminator (line ++ terminator :: content) =
      (line ++ [terminator]) :: linesBy terminator content := by
  by_cases hline : line = []
  · subst hline
    rw [List.nil_append, linesBy, if_pos rfl]
    rfl
  · rw [linesBy_append_of_not_mem hline hfree, linesBy, if_pos rfl]

/-- Behind a terminator the lines of a document are those of what follows. -/
theorem linesBy_append_of_terminated (body content : List α) :
    linesBy terminator (body ++ [terminator] ++ content) =
      linesBy terminator (body ++ [terminator]) ++ linesBy terminator content := by
  induction body with
  | nil => simp [linesBy]
  | cons a rest ih =>
    have hne : linesBy terminator (rest ++ [terminator]) ≠ [] := fun hnil ↦ by
      have hflat := flatten_linesBy terminator (rest ++ [terminator])
      simp [hnil] at hflat
    obtain ⟨line, lines, hlines⟩ := List.exists_cons_of_ne_nil hne
    rw [List.cons_append, List.cons_append, linesBy, ih, linesBy, hlines]
    split <;> rfl

/-- A document made of terminated pieces, which may have terminators inside, has the lines of those
pieces. -/
theorem linesBy_flatten_of_terminated {pieces : List (List α)}
    (h : ∀ piece ∈ pieces, ∃ body, piece = body ++ [terminator]) :
    linesBy terminator pieces.flatten = pieces.flatMap (linesBy terminator) := by
  induction pieces with
  | nil => rfl
  | cons piece rest ih =>
    obtain ⟨body, rfl⟩ := h piece List.mem_cons_self
    rw [List.flatten_cons, linesBy_append_of_terminated, List.flatMap_cons,
      ih fun other hother ↦ h other (List.mem_cons_of_mem _ hother)]

/-- A document without a terminator is one line, if it is not empty. -/
theorem linesBy_of_not_mem {content : List α} (hne : content ≠ [])
    (hfree : terminator ∉ content) : linesBy terminator content = [content] := by
  simpa [linesBy] using linesBy_append_of_not_mem hne hfree []

/-- A document made of terminated lines has those lines. -/
theorem linesBy_flatten {lines : List (List α)}
    (h : ∀ line ∈ lines, ∃ body, line = body ++ [terminator] ∧ terminator ∉ body) :
    linesBy terminator lines.flatten = lines := by
  induction lines with
  | nil => rfl
  | cons line rest ih =>
    obtain ⟨body, rfl, hfree⟩ := h line List.mem_cons_self
    have hrest := ih fun other hother ↦ h other (List.mem_cons_of_mem _ hother)
    rw [List.flatten_cons, List.append_assoc, List.singleton_append,
      linesBy_append_terminator hfree, hrest]

end TermKeys.Text
