import Mathlib.Data.List.TakeWhile
import Mathlib.Tactic.SplitIfs
import TermKeys.Line
import TermKeys.Proofs.Text.Plain

/-!
How a key line is read from its parts. In front of the colon stands a condition, which
`Line.IsCondition` keeps apart from the rest of the line: `read_keyLine` says that the line is then
read as that condition without its blanks, with the action behind the colon, whatever the action
holds. Where no action is found behind that colon the text of the line may still hold another
colon with one (`read_keyLine_of_none`), but a text to send takes two quotes
(`two_le_count_of_splitAction?`).
-/

set_option autoImplicit false

namespace TermKeys

namespace Text

/-- A text is split at a separator with no other one after it. -/
theorem splitLast?_append_cons {separator : Char} {after : Text} (h : separator ∉ after)
    (before : Text) :
    splitLast? separator (before ++ separator :: after) = some (before, after) := by
  induction before with
  | nil => rw [List.nil_append, splitLast?, splitLast?_eq_none.mpr h, if_pos rfl]
  | cons c rest ih => rw [List.cons_append, splitLast?, ih]

end Text

namespace Line

open Unicode Text

/-! ### Comments -/

/-- A number sign with an odd number of quotes after it opens no comment. -/
theorem dropComment_append {front rest : Text}
    (h : ∀ after, '#' :: after <:+ front → (after ++ rest).count '"' % 2 = 1) :
    dropComment (front ++ rest) = front ++ dropComment rest := by
  induction front with
  | nil => rfl
  | cons c more ih =>
    have hkept : ¬(c = '#' ∧ (more ++ rest).count '"' % 2 = 0) := by
      rintro ⟨rfl, heven⟩
      have hodd := h more (List.suffix_refl _)
      omega
    rw [List.cons_append, dropComment, if_neg hkept,
      ih fun after hafter ↦ h after (hafter.trans (List.suffix_cons c more))]
    rfl

theorem dropComment_append_of_not_mem {front : Text} (h : '#' ∉ front) (rest : Text) :
    dropComment (front ++ rest) = front ++ dropComment rest :=
  dropComment_append fun _ hafter ↦ absurd (hafter.subset List.mem_cons_self) h

/-- A number sign with an even number of quotes after it opens a comment. -/
theorem dropComment_hash {rest : Text} (h : rest.count '"' % 2 = 0) :
    dropComment ('#' :: rest) = [] := by
  rw [dropComment, if_pos ⟨rfl, h⟩]

/-- What is left of a line has an odd number of quotes just if the line has. -/
theorem count_quote_dropComment (line : Text) :
    (dropComment line).count '"' % 2 = line.count '"' % 2 := by
  induction line with
  | nil => rfl
  | cons c rest ih =>
    rw [dropComment]
    split_ifs with hhash
    · rw [hhash.1, List.count_cons_of_ne (by decide), hhash.2]
      rfl
    · rw [List.count_cons, List.count_cons]
      omega

theorem dropComment_prefix (line : Text) : dropComment line <+: line := by
  induction line with
  | nil => exact List.prefix_refl _
  | cons c rest ih =>
    rw [dropComment]
    split_ifs
    · exact List.nil_prefix
    · exact List.cons_prefix_cons.mpr ⟨rfl, ih⟩

theorem dropComment_subset (line : Text) : dropComment line ⊆ line :=
  List.IsPrefix.subset <| dropComment_prefix line

/-! ### Actions -/

theorem action?_send {tail : Text} (h : '"' ∉ tail) (body : Text) :
    action? (' ' :: '"' :: body ++ '"' :: tail) = some (.send body) := by
  simp [action?, splitLast?_append_cons h]

theorem action?_unclosed {rest : Text} (h : '"' ∉ rest) : action? (' ' :: '"' :: rest) = none := by
  simp [action?, splitLast?_eq_none.mpr h]

theorem action?_word {word : Text} (hne : word ≠ []) (h : ∀ c ∈ word, isWordChar c = true) :
    action? (' ' :: word) = some (.command word) := by
  obtain ⟨c, rest, rfl⟩ := List.exists_cons_of_ne_nil hne
  have hc := h c List.mem_cons_self
  have hquote : c ≠ '"' := fun heq ↦ absurd hc (by rw [heq]; decide +kernel)
  have hrest : rest.takeWhile isWordChar = rest :=
    List.takeWhile_eq_self_iff.mpr fun d hd ↦ h d (List.mem_cons_of_mem _ hd)
  simp [action?, hquote, hc, hrest]

/-- An action begins at the front of a text or after one space: with a quote, and is the text up to
the last quote, or with a character of a word, and is that word. -/
theorem action?_eq_some {text : Text} {action : Action} (h : action? text = some action) :
    ∃ c rest, (text = c :: rest ∨ text = ' ' :: c :: rest) ∧
      ((c = '"' ∧ ∃ body after, rest = body ++ '"' :: after ∧ action = .send body) ∨
        action = .command (c :: rest.takeWhile isWordChar)) := by
  unfold action? at h
  split at h
  · exact nomatch h
  · next c rest heq =>
    refine ⟨c, rest, ?_, ?_⟩
    · split_ifs at heq with hspace
      · obtain ⟨more, rfl⟩ := List.head?_eq_some_iff.mp hspace
        rw [List.tail_cons] at heq
        exact Or.inr (by rw [heq])
      · exact Or.inl heq
    · split_ifs at h with hquote
      · obtain ⟨⟨body, after⟩, hsplit, rfl⟩ := Option.map_eq_some_iff.mp h
        exact Or.inl ⟨hquote, body, after, (splitLast?_eq_some hsplit).1, rfl⟩
      · exact Or.inr (Option.some.inj h).symm

/-- The text of an action is part of the text that it is found in. -/
theorem subset_of_action? {text : Text} {action : Action} (h : action? text = some action) :
    action.token.text ⊆ text := by
  obtain ⟨c, rest, htext, haction⟩ := action?_eq_some h
  have hpart : action.token.text ⊆ c :: rest := by
    rcases haction with ⟨-, body, after, rfl, rfl⟩ | rfl
    · exact fun d hd ↦ List.mem_cons_of_mem c (List.mem_append_left _ hd)
    · exact List.cons_subset_cons c (List.takeWhile_subset _)
  rcases htext with rfl | rfl
  · exact hpart
  · exact List.Subset.trans hpart (List.subset_cons_self ' ' _)

/-- A text to send stands between two quotes. -/
theorem two_le_count_of_action? {text body : Text} (h : action? text = some (.send body)) :
    2 ≤ text.count '"' := by
  obtain ⟨c, rest, htext, ⟨rfl, front, after, rfl, -⟩ | hword⟩ := action?_eq_some h
  · rcases htext with rfl | rfl <;> simp <;> omega
  · exact nomatch hword

/-- A text is split at a colon at its front if there is an action behind it, and else further on. -/
theorem splitAction?_cons_eq_some {c : Char} {rest before : Text} {action : Action} :
    splitAction? (c :: rest) = some (before, action) ↔
      (c = ':' ∧ action? rest = some action ∧ before = []) ∨
        (c = ':' → action? rest = none) ∧
          ∃ more, splitAction? rest = some (more, action) ∧ before = c :: more := by
  have hlater : (splitAction? rest).map (fun parts ↦ (c :: parts.1, parts.2)) =
      some (before, action) ↔
        ∃ more, splitAction? rest = some (more, action) ∧ before = c :: more := by
    cases splitAction? rest <;> simp [Prod.ext_iff, eq_comm, and_comm]
  rw [splitAction?]
  by_cases hc : c = ':'
  · rw [if_pos hc]
    cases action? rest with
    | some found => simp [hc, eq_comm, and_comm]
    | none => simpa [hc] using hlater
  · rw [if_neg hc]
    simpa [hc] using hlater

/-- Where a text is split there is a colon, with the action behind it. -/
theorem splitAction?_eq_some {text before : Text} {action : Action}
    (h : splitAction? text = some (before, action)) :
    ∃ after, text = before ++ ':' :: after ∧ action? after = some action := by
  induction text generalizing before with
  | nil => exact nomatch h
  | cons c rest ih =>
    rcases splitAction?_cons_eq_some.mp h with ⟨rfl, hfound, rfl⟩ | ⟨-, more, hmore, rfl⟩
    · exact ⟨rest, rfl, hfound⟩
    · obtain ⟨after, rfl, hafter⟩ := ih hmore
      exact ⟨after, rfl, hafter⟩

theorem two_le_count_of_splitAction? {text before body : Text}
    (h : splitAction? text = some (before, .send body)) : 2 ≤ text.count '"' := by
  obtain ⟨after, rfl, hafter⟩ := splitAction?_eq_some h
  have hsuffix : after <:+ before ++ ':' :: after :=
    (List.suffix_cons ':' after).trans (List.suffix_append before _)
  exact Nat.le_trans (two_le_count_of_action? hafter) (hsuffix.sublist.count_le '"')

/-- The first colon of a text decides, if there is an action behind it. -/
theorem splitAction?_append {front : Text} (h : ':' ∉ front) (rest : Text) :
    splitAction? (front ++ ':' :: rest) =
      match action? rest with
      | some action => some (front, action)
      | none => (splitAction? rest).map fun parts ↦ (front ++ ':' :: parts.1, parts.2) := by
  induction front with
  | nil =>
    rw [List.nil_append, splitAction?, if_pos rfl]
    cases action? rest <;> simp
  | cons c more ih =>
    rw [List.mem_cons, not_or] at h
    rw [List.cons_append, splitAction?, if_neg (Ne.symm h.1), ih h.2]
    cases action? rest <;> simp [Function.comp_def]

/-! ### Key lines -/

/-- What may stand in front of the colon of a key line: something besides blanks, without quotes,
number signs and colons. -/
structure IsCondition (condition : Text) : Prop where
  exists_not_blank : ∃ c ∈ condition, isBlank c = false
  quote_not_mem : '"' ∉ condition
  hash_not_mem : '#' ∉ condition
  colon_not_mem : ':' ∉ condition

variable {condition rest : Text}

theorem dropComment_keyLine (h : '#' ∉ condition) (rest : Text) :
    dropComment ("key ".toList ++ condition ++ " : ".toList ++ rest) =
      "key ".toList ++ (condition ++ (" : ".toList ++ dropComment rest)) := by
  have hhash : '#' ∉ "key ".toList ++ condition ++ " : ".toList := by simp [h]
  rw [dropComment_append_of_not_mem hhash, List.append_assoc, List.append_assoc]

theorem plain_key_append {text : Text} (h : words text ≠ []) :
    plain ("key ".toList ++ text) = keyWord ++ plain text := by
  have hkey : plain ("key".toList ++ ' ' :: text) = plain "key".toList ++ ' ' :: plain text :=
    plain_append_blank (by decide) (by decide) h
  exact hkey

theorem plain_colon_append {text : Text} (h : words text ≠ []) :
    plain (" : ".toList ++ text) = ':' :: ' ' :: plain text := by
  have hcolon : plain (":".toList ++ ' ' :: text) = plain ":".toList ++ ' ' :: plain text :=
    plain_append_blank (by decide) (by decide) h
  exact (plain_cons_blank (by decide) _).trans hcolon

/-- The words of a key line, one space apart. -/
theorem plain_keyLine (hcondition : IsCondition condition) (hrest : words (dropComment rest) ≠ []) :
    plain (dropComment ("key ".toList ++ condition ++ " : ".toList ++ rest)) =
      keyWord ++ (plain condition ++ ' ' :: ':' :: ' ' :: plain (dropComment rest)) := by
  obtain ⟨c, hc, hblank⟩ := hcondition.exists_not_blank
  have hinner : words (condition ++ (" : ".toList ++ dropComment rest)) ≠ [] :=
    words_ne_nil (List.mem_append_left _ hc) hblank
  have hcolon : plain (':' :: ' ' :: dropComment rest) = ':' :: ' ' :: plain (dropComment rest) :=
    (plain_cons_blank (by decide) _).symm.trans (plain_colon_append hrest)
  have htail : words (':' :: ' ' :: dropComment rest) ≠ [] :=
    words_ne_nil List.mem_cons_self (by decide)
  have hcondition' : plain (condition ++ ' ' :: ':' :: ' ' :: dropComment rest) =
      plain condition ++ ' ' :: plain (':' :: ' ' :: dropComment rest) :=
    plain_append_blank (by decide) (words_ne_nil hc hblank) htail
  rw [dropComment_keyLine hcondition.hash_not_mem, plain_key_append hinner, ← hcolon, ← hcondition']
  rfl

/-- Words that begin as a key line does are split at the first colon with an action. -/
theorem ofPlain_keyWord (c : Char) (rest : Text) :
    ofPlain (keyWord ++ c :: rest) =
      match splitAction? rest with
      | some (before, action) => .key ((c :: before).filter (· != ' ')) action
      | none => .unreadable (keyWord ++ c :: rest) := by
  have htitle : titleWord.isPrefixOf (keyWord ++ c :: rest) = false := rfl
  have hkey : keyWord.isPrefixOf (keyWord ++ c :: rest) = true := rfl
  rw [ofPlain, htitle, hkey]
  exact (if_neg Bool.false_ne_true).trans (if_pos rfl)

/-- A key line is read as its condition without blanks and the action behind the colon. Where
there is none, the condition goes on to a later colon that has one. -/
theorem read_keyLine_eq (hcondition : IsCondition condition)
    (hrest : words (dropComment rest) ≠ []) :
    read ("key ".toList ++ condition ++ " : ".toList ++ rest) =
      match action? (' ' :: plain (dropComment rest)) with
      | some action => .key (condition.filter fun c ↦ !isBlank c) action
      | none =>
        match splitAction? (' ' :: plain (dropComment rest)) with
        | some (before, action) =>
          .key ((plain condition ++ ' ' :: ':' :: before).filter (· != ' ')) action
        | none =>
          .unreadable (keyWord ++ (plain condition ++ ' ' :: ':' :: ' ' ::
            plain (dropComment rest))) := by
  obtain ⟨c, hc, hblank⟩ := hcondition.exists_not_blank
  have hplain : plain condition ≠ [] := by
    intro hnil
    have hmem : c ∈ condition.filter fun c ↦ !isBlank c := by simp [hc, hblank]
    rw [← filter_plain, hnil] at hmem
    exact List.not_mem_nil hmem
  have hnoColon : ':' ∉ plain condition := fun hmem ↦
    (mem_plain hmem).elim (by simp) fun h ↦ hcondition.colon_not_mem h.1
  obtain ⟨first, more, hmore⟩ := List.exists_cons_of_ne_nil hplain
  have hcolon : ':' ∉ more ++ [' '] := by
    rw [hmore] at hnoColon
    simp_all
  have hsplit : more ++ ' ' :: ':' :: ' ' :: plain (dropComment rest) =
      more ++ [' '] ++ ':' :: ' ' :: plain (dropComment rest) := by simp
  have hread : read ("key ".toList ++ condition ++ " : ".toList ++ rest) =
      ofPlain (keyWord ++ first :: (more ++ ' ' :: ':' :: ' ' :: plain (dropComment rest))) := by
    rw [read, plain_keyLine hcondition hrest, hmore]
    rfl
  rw [hread, ofPlain_keyWord, hsplit, splitAction?_append hcolon, ← filter_plain, hmore]
  cases action? (' ' :: plain (dropComment rest)) with
  | some action => simp [List.filter_cons]
  | none =>
    cases splitAction? (' ' :: plain (dropComment rest)) with
    | some parts => simp
    | none => simp

/-- No key line is a title. -/
theorem read_keyLine_ne_title (hcondition : IsCondition condition)
    (hrest : words (dropComment rest) ≠ []) (title : Text) :
    read ("key ".toList ++ condition ++ " : ".toList ++ rest) ≠ .title title := by
  rw [read_keyLine_eq hcondition hrest]
  cases action? (' ' :: plain (dropComment rest)) with
  | some action => simp
  | none => cases splitAction? (' ' :: plain (dropComment rest)) <;> simp

theorem read_keyLine (hcondition : IsCondition condition) (hrest : words (dropComment rest) ≠ [])
    {action : Action} (haction : action? (' ' :: plain (dropComment rest)) = some action) :
    read ("key ".toList ++ condition ++ " : ".toList ++ rest) =
      .key (condition.filter fun c ↦ !isBlank c) action := by
  rw [read_keyLine_eq hcondition hrest, haction]

theorem read_keyLine_of_none (hcondition : IsCondition condition)
    (hrest : words (dropComment rest) ≠ [])
    (haction : action? (' ' :: plain (dropComment rest)) = none) {descriptor : Text}
    {action : Action}
    (h : read ("key ".toList ++ condition ++ " : ".toList ++ rest) = .key descriptor action) :
    ∃ before, splitAction? (' ' :: plain (dropComment rest)) = some (before, action) := by
  rw [read_keyLine_eq hcondition hrest, haction] at h
  cases hsplit : splitAction? (' ' :: plain (dropComment rest)) with
  | none => simp [hsplit] at h
  | some parts =>
    simp only [hsplit, key.injEq] at h
    exact ⟨parts.1, by rw [← h.2]⟩

/-! ### Descriptors -/

/-- The words of a title line, taken apart. -/
theorem ofPlain_eq_title {text title : Text} (h : ofPlain text = .title title) :
    ∃ rest, text = titleWord ++ rest ∧ title = plain (rest.filter (· != '"')) := by
  unfold ofPlain at h
  split_ifs at h with htitle
  · obtain ⟨rest, rfl⟩ := List.isPrefixOf_iff_prefix.mp htitle
    rw [List.drop_left] at h
    split at h
    · exact nomatch h
    · exact ⟨rest, rfl, (Line.title.inj h).symm⟩
  · split at h
    · exact nomatch h
    · split at h <;> exact nomatch h

/-- The words of a key line, taken apart. -/
theorem ofPlain_eq_key {text descriptor : Text} {action : Action}
    (h : ofPlain text = .key descriptor action) :
    ∃ c rest before, text = keyWord ++ c :: rest ∧ splitAction? rest = some (before, action) ∧
      descriptor = (c :: before).filter (· != ' ') := by
  unfold ofPlain at h
  split_ifs at h with htitle hkey
  · split at h <;> exact nomatch h
  · obtain ⟨more, rfl⟩ := List.isPrefixOf_iff_prefix.mp hkey
    rw [List.drop_left] at h
    cases more with
    | nil => exact nomatch h
    | cons c rest =>
      dsimp only at h
      split at h
      · next before found hsplit =>
        obtain ⟨rfl, rfl⟩ := Line.key.inj h
        exact ⟨c, rest, before, rfl, hsplit, rfl⟩
      · exact nomatch h

/-- The descriptor of a key line is of characters of that line, and has no blanks. -/
theorem mem_of_mem_descriptor {line descriptor : Text} {action : Action}
    (h : read line = .key descriptor action) {c : Char} (hc : c ∈ descriptor) :
    c ∈ line ∧ isBlank c = false := by
  unfold read at h
  split at h
  · exact nomatch h
  · obtain ⟨first, rest, before, htext, hsplit, rfl⟩ := ofPlain_eq_key h
    obtain ⟨after, rfl, -⟩ := splitAction?_eq_some hsplit
    obtain ⟨hmem, hspace⟩ := List.mem_filter.mp hc
    have hplain : c ∈ plain (dropComment line) := by
      rw [htext, ← List.cons_append]
      exact List.mem_append_right _ (List.mem_append_left _ hmem)
    rcases mem_plain hplain with rfl | ⟨hmem, hblank⟩
    · exact absurd hspace (by decide)
    · exact ⟨dropComment_subset line hmem, hblank⟩

end Line

end TermKeys
