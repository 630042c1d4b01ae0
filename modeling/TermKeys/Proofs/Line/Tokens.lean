import TermKeys.Proofs.Line.Separator
import TermKeys.Proofs.Line.Title
import TermKeys.Proofs.Unicode.Words

/-!
The tokens of a line. Whatever characters a line has, its tokens are those of a title or of a key
line, or there are none, and each holds what its kind allows (`isRow_read`): a descriptor is not
empty and has no blanks, a command is a word, and the blanks of a title or of a text to send are
spaces that stand alone. A title has its quotes taken out of words that are one space apart already,
which may leave blanks as neighbours, so its words are brought together a second time. No line break
is left in any token (`Token.IsClean.isLineBreak_eq_false`).
-/

set_option autoImplicit false

namespace TermKeys

open Unicode Pattern

/-! ### Line breaks -/

/-- The characters that end a line for one reader of texts or another. -/
def Unicode.lineBreaks : Ranges :=
  [(0xA, 0xD), (0x1C, 0x1E), (0x85, 0x85), (0x2028, 0x2029)]

/-- Whether a character ends a line. -/
def Unicode.isLineBreak (c : Char) : Bool := lineBreaks.holds c.toNat

/-- A line break is blank and no space. -/
theorem Unicode.isLineBreak_eq_false {c : Char} (h : isBlank c = true → c = ' ') :
    isLineBreak c = false := by
  have hall : ∀ n ∈ lineBreaks.codes,
      isBlank (Char.ofNat n) = true ∧ Char.ofNat n ≠ ' ' :=
    List.all_iff_forall_prop.mp (by decide +kernel)
  rw [Bool.eq_false_iff]
  intro hbreak
  obtain ⟨hblank, hspace⟩ := hall c.toNat (Ranges.mem_codes_of_holds hbreak)
  rw [Char.ofNat_toNat] at hblank hspace
  exact hspace (h hblank)

theorem Line.IsTitle.isSpaced {title : Text} (h : IsTitle title) : IsSpaced title :=
  h.plain_eq ▸ isSpaced_plain title

/-! ### Clean tokens -/

/-- What a token of its kind may hold. -/
def Token.IsClean (token : Token) : Prop :=
  match token.kind with
  | .titleKeyword | .keyKeyword => token.text = []
  | .titleText => token.text ≠ [] ∧ Line.IsTitle token.text
  | .keySequence => token.text ≠ [] ∧ ∀ c ∈ token.text, isBlank c = false
  | .command => token.text ≠ [] ∧ ∀ c ∈ token.text, isWordChar c = true
  | .outputText => IsSpaced token.text

theorem Token.IsClean.isLineBreak_eq_false {token : Token} (h : token.IsClean) {c : Char}
    (hc : c ∈ token.text) : isLineBreak c = false := by
  refine Unicode.isLineBreak_eq_false fun hblank ↦ ?_
  obtain ⟨kind, text⟩ := token
  cases kind with
  | titleKeyword | keyKeyword =>
    obtain rfl : text = [] := h
    exact absurd hc List.not_mem_nil
  | titleText => exact h.2.isSpaced.eq_space c hc hblank
  | keySequence => exact absurd hblank (by simp [h.2 c hc])
  | command => exact absurd hblank (by simp [isBlank_of_isWordChar (h.2 c hc)])
  | outputText => exact h.eq_space c hc hblank

namespace Line

/-- The kinds of the tokens of a line, one after the other. -/
def rows : List (List TokenKind) :=
  [[], [.titleKeyword, .titleText], [.keyKeyword, .keySequence, .outputText],
   [.keyKeyword, .keySequence, .command]]

/-- Tokens as a line gives them. -/
structure IsRow (tokens : List Token) : Prop where
  kinds : tokens.map Token.kind ∈ rows
  clean : ∀ token ∈ tokens, token.IsClean

variable {text : Text} {action : Action}

theorem kinds_mem_rows (line : Line) : line.tokens.map Token.kind ∈ rows := by
  cases line with
  | nothing | title _ | unreadable _ => simp [tokens, rows]
  | key descriptor action => cases action <;> simp [tokens, rows, Action.token]

/-! ### Words one space apart -/

/-- An action in spaced words is a word or a spaced text. -/
theorem isClean_token (hspaced : IsSpaced text) (h : action? text = some action) :
    action.token.IsClean := by
  obtain ⟨c, rest, htext, ⟨-, body, after, rfl, rfl⟩ | rfl⟩ := action?_eq_some h
  · have hbody : body <:+: c :: (body ++ '"' :: after) := ⟨[c], '"' :: after, by simp⟩
    refine hspaced.of_infix (hbody.trans ?_)
    rcases htext with rfl | rfl
    · exact List.infix_rfl
    · exact (List.suffix_cons ' ' _).isInfix
  · rcases isActionToken_of_action? h with ⟨sent, after, -, -, htoken⟩ | ⟨-, htoken⟩
    · exact nomatch htoken
    · refine ⟨List.cons_ne_nil _ _, fun d hd ↦ ?_⟩
      have hword : c :: rest.takeWhile isWordChar = (dropSpace text).takeWhile isWordChar :=
        congrArg Token.text htoken
      exact List.mem_takeWhile_imp (hword ▸ hd)

theorem ne_nil_of_title {title : Text} (h : ofPlain text = .title title) : title ≠ [] := by
  rintro rfl
  obtain ⟨rest, rfl, hwords⟩ := ofPlain_eq_title h
  rw [ofPlain, if_pos (List.isPrefixOf_iff_prefix.mpr (List.prefix_append _ _)), List.drop_left,
    ← hwords] at h
  cases h

/-- A key line of spaced words has a descriptor without blanks, of one character at least: no space
stands behind that of the keyword. -/
theorem descriptor_of_key (hspaced : IsSpaced text) {descriptor : Text}
    (h : ofPlain text = .key descriptor action) :
    (descriptor ≠ [] ∧ ∀ c ∈ descriptor, isBlank c = false) ∧ action.token.IsClean := by
  obtain ⟨c, rest, before, rfl, hsplit, rfl⟩ := ofPlain_eq_key h
  obtain ⟨after, rfl, haction⟩ := splitAction?_eq_some hsplit
  have hc : c ≠ ' ' := by
    rintro rfl
    exact hspaced.not_infix ⟨"key".toList, before ++ ':' :: after, by simp [keyWord]⟩
  refine ⟨⟨?_, fun d hd ↦ ?_⟩, ?_⟩
  · exact List.ne_nil_of_mem (List.mem_filter.mpr ⟨List.mem_cons_self, bne_iff_ne.mpr hc⟩)
  · obtain ⟨hmem, hspace⟩ := List.mem_filter.mp hd
    rw [Bool.eq_false_iff]
    intro hblank
    have hin : d ∈ keyWord ++ c :: (before ++ ':' :: after) := by
      rw [← List.cons_append]
      exact List.mem_append_right _ (List.mem_append_left _ hmem)
    exact bne_iff_ne.mp hspace (hspaced.eq_space d hin hblank)
  · exact isClean_token (hspaced.of_suffix ⟨keyWord ++ c :: before ++ [':'], by simp⟩) haction

/-! ### Lines -/

/-- The tokens of any line are those of a title or of a key line, or none, and all are clean. -/
theorem isRow_read (line : Text) : IsRow (read line).tokens where
  kinds := kinds_mem_rows (read line)
  clean token htoken := by
    rw [tokens_read] at htoken
    have hspaced := isSpaced_plain (dropComment line)
    cases hline : ofPlain (Text.plain (dropComment line)) with
    | nothing | unreadable _ =>
      rw [hline] at htoken
      exact absurd htoken List.not_mem_nil
    | title title =>
      have hwords : Text.words (dropComment line) ≠ [] := fun hnil ↦ by
        rw [Text.plain, hnil] at hline
        cases hline
      have htitle : IsTitle title := isTitle_of_read ((read_of_words hwords).trans hline)
      rw [hline] at htoken
      simp only [tokens, List.mem_cons, List.not_mem_nil, or_false] at htoken
      rcases htoken with rfl | rfl
      · exact rfl
      · exact ⟨ne_nil_of_title hline, htitle⟩
    | key descriptor action =>
      obtain ⟨hdescriptor, haction⟩ := descriptor_of_key hspaced hline
      rw [hline] at htoken
      simp only [tokens, List.mem_cons, List.not_mem_nil, or_false] at htoken
      rcases htoken with rfl | rfl | rfl
      · exact rfl
      · exact hdescriptor
      · exact haction

end Line

end TermKeys
