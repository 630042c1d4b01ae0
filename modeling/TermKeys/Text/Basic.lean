import TermKeys.Unicode.Blank

/-!
Texts and byte strings as lists, with the two ways of taking a text apart that do not
depend on what it says: at a separator and at its blank ends.
-/

set_option autoImplicit false

namespace TermKeys

/-- A text is a list of characters. -/
abbrev Text := List Char

/-- A byte string. -/
abbrev Bytes := List UInt8

/-- What a table has for a key is one of its entries. -/
theorem mem_of_lookup {α β : Type} [BEq α] [LawfulBEq α] {table : List (α × β)} {key : α}
    {value : β} (h : table.lookup key = some value) : (key, value) ∈ table := by
  obtain ⟨front, back, hsplit, -⟩ := List.lookup_eq_some_iff.mp h
  simp [hsplit]

namespace Text

open Unicode

/-- The pieces of a text between the separators, empty ones included: there is always
one more piece than there are separators. -/
def splitOn (separator : Char) : Text → List Text
  | [] => [[]]
  | c :: rest =>
    if c = separator then [] :: splitOn separator rest
    else match splitOn separator rest with
      | [] => [[c]]
      | piece :: pieces => (c :: piece) :: pieces

theorem splitOn_ne_nil (separator : Char) (text : Text) : splitOn separator text ≠ [] := by
  induction text with
  | nil => simp [splitOn]
  | cons c rest ih =>
    rw [splitOn]
    split
    · simp
    · split <;> simp

/-- A separator ends the pieces before it and begins those after it. -/
theorem splitOn_append_cons (separator : Char) (first second : Text) :
    splitOn separator (first ++ separator :: second) =
      splitOn separator first ++ splitOn separator second := by
  induction first with
  | nil => simp [splitOn]
  | cons c rest ih =>
    rw [List.cons_append, splitOn, splitOn, ih]
    split
    · rfl
    · obtain ⟨piece, pieces, h⟩ := List.exists_cons_of_ne_nil (splitOn_ne_nil separator rest)
      rw [h]
      rfl

theorem splitOn_of_not_mem {separator : Char} {text : Text} (h : separator ∉ text) :
    splitOn separator text = [text] := by
  induction text with
  | nil => rfl
  | cons c rest ih =>
    rw [List.mem_cons, not_or] at h
    rw [splitOn, if_neg (Ne.symm h.1), ih h.2]

theorem splitOn_intercalate {separator : Char} {pieces : List Text} (hne : pieces ≠ [])
    (h : ∀ piece ∈ pieces, separator ∉ piece) :
    splitOn separator (List.intercalate [separator] pieces) = pieces := by
  induction pieces with
  | nil => exact absurd rfl hne
  | cons first rest ih =>
    have hfirst := splitOn_of_not_mem (h first List.mem_cons_self)
    cases rest with
    | nil => simpa using hfirst
    | cons second others =>
      rw [List.intercalate_cons_cons, List.append_assoc, List.singleton_append,
        splitOn_append_cons, hfirst,
        ih (List.cons_ne_nil _ _) fun piece hp ↦ h piece (List.mem_cons_of_mem _ hp)]
      rfl

/-- The text without the blanks at its end. -/
def trimEnd (text : Text) : Text := (text.reverse.dropWhile isBlank).reverse

/-- The text without the blanks at its two ends. -/
def trim (text : Text) : Text := trimEnd (text.dropWhile isBlank)

/-- The part of a text before the last occurrence of a character and the part after it. -/
def splitLast? (separator : Char) : Text → Option (Text × Text)
  | [] => none
  | c :: rest =>
    match splitLast? separator rest with
    | some (before, after) => some (c :: before, after)
    | none => if c = separator then some ([], rest) else none

theorem splitLast?_eq_none {separator : Char} {text : Text} :
    splitLast? separator text = none ↔ separator ∉ text := by
  induction text with
  | nil => simp [splitLast?]
  | cons c rest ih =>
    rw [splitLast?]
    cases hr : splitLast? separator rest with
    | some parts =>
      have : separator ∈ rest := by
        rw [hr] at ih
        simpa using ih
      simp [this]
    | none =>
      have : separator ∉ rest := ih.1 hr
      by_cases hc : c = separator
      · simp [hc]
      · simp [hc, this, Ne.symm hc]

/-- No separator stands after the last one. -/
theorem splitLast?_eq_some {separator : Char} {text before after : Text}
    (h : splitLast? separator text = some (before, after)) :
    text = before ++ separator :: after ∧ separator ∉ after := by
  induction text generalizing before after with
  | nil => simp [splitLast?] at h
  | cons c rest ih =>
    rw [splitLast?] at h
    split at h
    · next b a hr =>
      simp only [Option.some.injEq, Prod.mk.injEq] at h
      obtain ⟨rfl, rfl⟩ := h
      obtain ⟨hrest, hnot⟩ := ih hr
      exact ⟨by simp [hrest], hnot⟩
    · next hr =>
      split at h
      · next hc =>
        simp only [Option.some.injEq, Prod.mk.injEq] at h
        obtain ⟨rfl, rfl⟩ := h
        exact ⟨by simp [hc], splitLast?_eq_none.1 hr⟩
      · simp at h

/-- The lines of a list of characters or bytes, each with the terminator that ends it;
only the last line may lack one, and no line is empty. -/
def linesBy {α : Type} [DecidableEq α] (terminator : α) : List α → List (List α)
  | [] => []
  | c :: rest =>
    if c = terminator then [c] :: linesBy terminator rest
    else match linesBy terminator rest with
      | [] => [[c]]
      | line :: lines => (c :: line) :: lines

/-- The lines of a list one after the other are the list. -/
@[simp] theorem flatten_linesBy {α : Type} [DecidableEq α] (terminator : α) (content : List α) :
    (linesBy terminator content).flatten = content := by
  induction content with
  | nil => rfl
  | cons c rest ih =>
    rw [linesBy]
    split
    · simp [ih]
    · split <;> simp_all

theorem ne_nil_of_mem_linesBy {α : Type} [DecidableEq α] {terminator : α} {content line : List α}
    (h : line ∈ linesBy terminator content) : line ≠ [] := by
  induction content generalizing line with
  | nil => simp [linesBy] at h
  | cons c rest ih =>
    rw [linesBy] at h
    split at h
    · rcases List.mem_cons.1 h with rfl | h
      · simp
      · exact ih h
    · split at h
      · simp_all
      · next first lines heq =>
        rcases List.mem_cons.1 h with rfl | h
        · simp
        · exact ih (heq ▸ List.mem_cons_of_mem _ h)

end Text

end TermKeys
