import TermKeys.Proofs.Line.Comment
import TermKeys.Proofs.Line.Scan

/-!
Lines with the same words. A comment is cut off before the words of a line are brought one space
apart, so the cut is made at another place than in the plain form of the line, and it may go through
a word. What is left has the same words either way (`plain_dropComment_plain`): the number sign that
opens the comment has the same quotes behind it in both, and a part without a comment has none in
its plain form. So lines with the same plain form have the same tokens and the same remarks
(`tokens_and_notes_of_plain`).
-/

set_option autoImplicit false

namespace TermKeys.Line

open Unicode

/-! ### Lines without a comment -/

/-- Whether a line has a comment is told by what is left of it without blanks, or by any part of it
that has all its number signs and quotes. -/
theorem dropComment_filter_eq_self_iff {keep : Char → Bool} (hhash : keep '#' = true)
    (hquote : keep '"' = true) (line : Text) :
    dropComment (line.filter keep) = line.filter keep ↔ dropComment line = line := by
  have hself : ∀ c text, dropComment (c :: text) = c :: text ↔
      ¬(c = '#' ∧ text.count '"' % 2 = 0) ∧ dropComment text = text := by
    intro c text
    rw [dropComment]
    split_ifs with hcut <;> simp [hcut]
  induction line with
  | nil => rfl
  | cons c rest ih =>
    rw [hself c rest]
    by_cases hc : keep c = true
    · rw [List.filter_cons_of_pos hc, hself, List.count_filter hquote]
      exact and_congr_right fun _ ↦ ih
    · have hne : c ≠ '#' := by
        rintro rfl
        exact hc hhash
      rw [List.filter_cons_of_neg hc]
      exact ih.trans (and_iff_right fun hcut ↦ hne hcut.1).symm

/-- A line has a comment just if its plain form has one, with a space at its end or without. -/
theorem dropComment_plain_append_eq_self_iff {gap : Text} (hgap : gap = [] ∨ gap = [' '])
    {line : Text} :
    dropComment (Text.plain line ++ gap) = Text.plain line ++ gap ↔ dropComment line = line := by
  have hspaces : (Text.plain line ++ gap).filter (· != ' ') = line.filter fun c ↦ !isBlank c := by
    rw [List.filter_append, Text.filter_plain]
    rcases hgap with rfl | rfl <;> exact List.append_nil _
  rw [← @dropComment_filter_eq_self_iff (· != ' ') rfl rfl, hspaces,
    dropComment_filter_eq_self_iff (by decide) (by decide)]

/-! ### Cuts in a line and in its plain form -/

/-- A line is what is left of it, and its comment if it has one. -/
theorem dropComment_cases (line : Text) :
    dropComment line = line ∨
      ∃ comment, comment.count '"' % 2 = 0 ∧ line = dropComment line ++ '#' :: comment := by
  induction line with
  | nil => exact Or.inl rfl
  | cons c rest ih =>
    rw [dropComment]
    split_ifs with hcut
    · obtain ⟨rfl, heven⟩ := hcut
      exact Or.inr ⟨rest, heven, rfl⟩
    · refine ih.imp (congrArg (c :: ·)) ?_
      rintro ⟨comment, heven, hrest⟩
      exact ⟨comment, heven, congrArg (c :: ·) hrest⟩

/-- A space behind a plain text is not in its plain form. -/
theorem plain_plain_append {gap : Text} (hgap : gap = [] ∨ gap = [' ']) (text : Text) :
    Text.plain (Text.plain text ++ gap) = Text.plain text := by
  rcases hgap with rfl | rfl
  · rw [List.append_nil, Text.plain_plain]
  · rw [Text.plain, Text.words_append_blank (by decide), Text.words_plain]
    exact congrArg _ (List.append_nil (Text.words text))

/-- Bringing the words of a line one space apart before its comment is dropped makes no difference
to the words that are left. -/
theorem plain_dropComment_plain (line : Text) :
    Text.plain (dropComment (Text.plain line)) = Text.plain (dropComment line) := by
  rcases dropComment_cases line with hself | ⟨comment, heven, hline⟩
  · have hplain := (dropComment_plain_append_eq_self_iff (Or.inl rfl)).mpr hself
    rw [List.append_nil] at hplain
    rw [hplain, hself, Text.plain_plain]
  · have hhash : isBlank '#' = false := by decide
    obtain ⟨gap, hgap, hplain⟩ := Text.exists_plain_append hhash (dropComment line) comment
    obtain ⟨rest, hrest⟩ := Text.exists_plain_cons hhash comment
    have hquotes : rest.count '"' % 2 = 0 := by
      have hcount := Text.count_plain (c := '"') (by decide) ('#' :: comment)
      rw [hrest, List.count_cons_of_ne (by decide), List.count_cons_of_ne (by decide)] at hcount
      rw [hcount, heven]
    have hkept := (dropComment_plain_append_eq_self_iff hgap).mpr (dropComment_dropComment line)
    calc Text.plain (dropComment (Text.plain line))
      _ = Text.plain (dropComment (Text.plain (dropComment line) ++ gap ++ '#' :: rest)) := by
        rw [List.append_assoc, ← hrest, ← hplain, ← hline]
      _ = Text.plain (Text.plain (dropComment line) ++ gap) := by
        rw [dropComment_append_comment hquotes, hkept]
      _ = Text.plain (dropComment line) := plain_plain_append hgap _

/-! ### Reading -/

theorem read_plain (line : Text) : read (Text.plain line) = read line := by
  rw [read, read, plain_dropComment_plain]

/-- Only the words of a line matter. Lines with the same words have the same tokens and the same
remarks, whatever the blanks are that stand between the words, in quotes, in front of a comment or
at the ends: the words that a comment leaves of a line are those that it leaves of its plain form.
-/
theorem tokens_and_notes_of_plain {first second : Text}
    (h : Text.plain first = Text.plain second) :
    (read first).tokens = (read second).tokens ∧ (read first).notes = (read second).notes ∧
      ∀ line, Text.plain (dropComment (Text.plain line)) = Text.plain (dropComment line) := by
  have hread : read first = read second := by rw [← read_plain first, h, read_plain]
  exact ⟨by rw [hread], by rw [hread], plain_dropComment_plain⟩

/-- Blanks of several kinds in quotes and in front of a comment that ends a word. -/
theorem tokens_and_notes_of_plain_blanks :
    Text.plain "\tkey\u2003A :\u00a0\"x\u3000\t y\"#z\u2028w\r\n".toList =
        Text.plain "key A : \"x y\"#z w".toList ∧
      (read "\tkey\u2003A :\u00a0\"x\u3000\t y\"#z\u2028w\r\n".toList).tokens =
        [⟨.keyKeyword, []⟩, ⟨.keySequence, ['A']⟩, ⟨.outputText, "x y".toList⟩] := by
  have hplain : Text.plain "\tkey\u2003A :\u00a0\"x\u3000\t y\"#z\u2028w\r\n".toList =
      Text.plain "key A : \"x y\"#z w".toList := by decide +kernel
  have htokens : (read "key A : \"x y\"#z w".toList).tokens =
      [⟨.keyKeyword, []⟩, ⟨.keySequence, ['A']⟩, ⟨.outputText, "x y".toList⟩] := by decide +kernel
  exact ⟨hplain, (tokens_and_notes_of_plain hplain).1.trans htokens⟩

end TermKeys.Line
