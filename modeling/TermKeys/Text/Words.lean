import TermKeys.Text.Basic

/-!
Words: the maximal runs of characters that are not blank. A text is brought into its
plain form by writing its words with one space between them.
-/

set_option autoImplicit false

namespace TermKeys.Text

open Unicode

/-- The run of characters before the first blank, which may be empty, and the words
after it. -/
def headAndWords : Text → Text × List Text
  | [] => ([], [])
  | c :: rest =>
    let (head, words) := headAndWords rest
    if isBlank c then ([], if head.isEmpty then words else head :: words)
    else (c :: head, words)

/-- The words of a text, in order. -/
def words (text : Text) : List Text :=
  let (head, words) := headAndWords text
  if head.isEmpty then words else head :: words

/-- The words of a text with one space between neighbours. -/
def plain (text : Text) : Text := List.intercalate [' '] (words text)

/-- A blank ends the words before it and begins none. -/
theorem words_append_blank {c : Char} (hc : isBlank c = true) (first second : Text) :
    words (first ++ c :: second) = words first ++ words second := by
  suffices h : headAndWords (first ++ c :: second) =
      ((headAndWords first).1, (headAndWords first).2 ++ words second) by
    simp only [words, h]
    split <;> simp
  induction first with
  | nil => simp [headAndWords, hc, words]
  | cons d rest ih =>
    rw [List.cons_append, headAndWords, ih, headAndWords]
    cases isBlank d <;> simp
    split <;> simp

/-- No blank stands in the head or in a word. -/
theorem blank_free_headAndWords (text : Text) :
    (∀ c ∈ (headAndWords text).1, isBlank c = false) ∧
      ∀ word ∈ (headAndWords text).2, word ≠ [] ∧ ∀ c ∈ word, isBlank c = false := by
  induction text with
  | nil => simp [headAndWords]
  | cons d rest ih =>
    obtain ⟨hhead, hwords⟩ := ih
    rw [headAndWords]
    cases hd : isBlank d with
    | true =>
      refine ⟨by simp, ?_⟩
      intro word hword
      simp only [if_true] at hword
      split at hword
      · exact hwords word hword
      · next hne =>
        rcases List.mem_cons.1 hword with rfl | hword
        · exact ⟨by simpa using hne, hhead⟩
        · exact hwords word hword
    | false =>
      refine ⟨?_, by simpa using hwords⟩
      intro c hc
      rcases List.mem_cons.1 (by simpa using hc) with rfl | hc
      · exact hd
      · exact hhead c hc

/-- A word is not empty and has no blank in it. -/
theorem mem_words {text word : Text} (h : word ∈ words text) :
    word ≠ [] ∧ ∀ c ∈ word, isBlank c = false := by
  obtain ⟨hhead, hwords⟩ := blank_free_headAndWords text
  unfold words at h
  dsimp only at h
  split at h
  · exact hwords word h
  · next hne =>
    rcases List.mem_cons.1 h with rfl | h
    · exact ⟨by simpa using hne, hhead⟩
    · exact hwords word h

/-- A text without blanks is one word, if it is not empty. -/
theorem words_of_blank_free {text : Text} (hne : text ≠ [])
    (h : ∀ c ∈ text, isBlank c = false) : words text = [text] := by
  suffices hw : headAndWords text = (text, []) by simp [words, hw, hne]
  clear hne
  induction text with
  | nil => rfl
  | cons c rest ih =>
    rw [headAndWords, ih fun d hd ↦ h d (List.mem_cons_of_mem _ hd)]
    simp [h c List.mem_cons_self]

/-- The words of a row of words are those words. -/
theorem words_intercalate {row : List Text}
    (h : ∀ word ∈ row, word ≠ [] ∧ ∀ c ∈ word, isBlank c = false) :
    words (List.intercalate [' '] row) = row := by
  induction row with
  | nil => rfl
  | cons first rest ih =>
    obtain ⟨hne, hfree⟩ := h first List.mem_cons_self
    cases rest with
    | nil => simpa using words_of_blank_free hne hfree
    | cons second others =>
      rw [List.intercalate_cons_cons, List.append_assoc, List.singleton_append,
        words_append_blank (by decide), words_of_blank_free hne hfree,
        ih fun word hword ↦ h word (List.mem_cons_of_mem _ hword)]
      rfl

@[simp] theorem words_plain (text : Text) : words (plain text) = words text :=
  words_intercalate fun _ h ↦ mem_words h

/-- Bringing the words one space apart twice is the same as once. -/
@[simp] theorem plain_plain (text : Text) : plain (plain text) = plain text := by
  rw [plain, words_plain, plain]

end TermKeys.Text
