import TermKeys.Layout
import TermKeys.Proofs.Line

/-!
Title lines. A title that is read is in plain form and has no quotes, and the line that is written
of such a title is read as that title again (`read_titleLine`). Every title line begins, behind its
blanks, with the word of titles (`titleWord_prefix_of_read`).
-/

set_option autoImplicit false

namespace TermKeys

open Unicode

namespace Text

theorem headAndWords_cons_blank {c : Char} (hc : isBlank c = true) (text : Text) :
    headAndWords (c :: text) = ([], words text) := by
  simp [headAndWords, hc, words]

/-- The words of a text are those of its spaced form. -/
theorem words_spaced (text : Text) : words (spaced text) = words text := by
  suffices h : headAndWords (spacedFrom isBlank ' ' false text) = headAndWords text ∧
      words (spacedFrom isBlank ' ' true text) = words text by
    rw [spaced, words, h.1, ← words]
  have hspace : isBlank ' ' = true := by decide
  induction text with
  | nil => exact ⟨rfl, rfl⟩
  | cons c rest ih =>
    obtain ⟨hhead, hwords⟩ := ih
    rw [spacedFrom, spacedFrom]
    cases hc : isBlank c with
    | true =>
      rw [if_pos rfl, if_neg Bool.false_ne_true, if_pos rfl, if_pos rfl,
        headAndWords_cons_blank hspace, headAndWords_cons_blank hc, hwords, words_cons_blank hc]
      exact ⟨rfl, rfl⟩
    | false =>
      have hsame : headAndWords (c :: spacedFrom isBlank ' ' false rest) =
          headAndWords (c :: rest) := by
        rw [headAndWords, headAndWords, hhead]
      exact ⟨hsame, by simp [words, hsame]⟩

end Text

namespace Line

/-- A text as it may be the title of a layout. -/
structure IsTitle (title : Text) : Prop where
  plain_eq : Text.plain title = title
  quote_not_mem : '"' ∉ title

/-- What is read as a title may be one. -/
theorem isTitle_of_read {line title : Text} (h : read line = .title title) : IsTitle title := by
  unfold read at h
  split at h
  · exact nomatch h
  · obtain ⟨rest, -, rfl⟩ := ofPlain_eq_title h
    refine ⟨Text.plain_plain _, fun hmem ↦ ?_⟩
    rcases Text.mem_plain hmem with hspace | ⟨hin, -⟩
    · exact absurd hspace (by decide)
    · exact absurd (List.mem_filter.mp hin).2 (by decide)

theorem IsTitle.lineEnd_not_mem {title : Text} (h : IsTitle title) : '\n' ∉ title := by
  intro hmem
  rcases Text.mem_plain (h.plain_eq.symm ▸ hmem) with hspace | ⟨-, hblank⟩
  · exact absurd hspace (by decide)
  · exact absurd hblank (by decide)

/-- No comment begins in the line of a title: behind a number sign there is one quote. -/
theorem dropComment_titleLine {title : Text} (h : IsTitle title) :
    dropComment (Layout.titleLine title) = Layout.titleLine title := by
  have hsplit : Layout.titleLine title = "keyboard \"".toList ++ (title ++ "\"\n".toList) :=
    List.append_assoc _ _ _
  have hodd : ∀ after, '#' :: after <:+ title → (after ++ "\"\n".toList).count '"' % 2 = 1 := by
    intro after hsuffix
    have hfree : '"' ∉ after := fun hmem ↦
      h.quote_not_mem (hsuffix.subset (List.mem_cons_of_mem _ hmem))
    rw [List.count_append, List.count_eq_zero_of_not_mem hfree]
    rfl
  have hend : dropComment "\"\n".toList = "\"\n".toList := by decide
  rw [hsplit, dropComment_append_of_not_mem (by decide), dropComment_append hodd, hend]

theorem plain_titleLine (title : Text) :
    Text.plain (Layout.titleLine title) =
      titleWord ++ ' ' :: '"' :: (Text.spaced title ++ ['"']) := by
  have hquote : isBlank '"' = false := by decide
  have hfront : "keyboard \"".toList = titleWord ++ [' ', '"'] := by decide
  have hback : "\"\n".toList = ['"', '\n'] := by decide
  have hsplit : Layout.titleLine title = titleWord ++ ' ' :: ('"' :: title ++ '"' :: ['\n']) := by
    unfold Layout.titleLine
    rw [hfront, hback]
    simp only [List.append_assoc, List.cons_append, List.nil_append]
  have hwords : Text.words ('"' :: title ++ '"' :: ['\n']) ≠ [] :=
    Text.words_ne_nil List.mem_cons_self hquote
  have hword : Text.plain titleWord = titleWord := by decide
  have hend : Text.plain ['"', '\n'] = ['"'] := by decide
  rw [hsplit, Text.plain_append_blank (by decide) (by decide) hwords, hword,
    Text.plain_cons_append hquote hquote, hend]
  rfl

/-- A title is read from the line that is written of it. -/
theorem read_titleLine {title : Text} (h : IsTitle title) :
    read (Layout.titleLine title) = if title = [] then .nothing else .title title := by
  have hspaced : '"' ∉ Text.spaced title := by
    intro hmem
    have hwords := congrArg List.flatten (Text.words_spaced title)
    rw [Text.flatten_words, Text.flatten_words] at hwords
    have hin : '"' ∈ (Text.spaced title).filter fun c ↦ !isBlank c :=
      List.mem_filter.mpr ⟨hmem, by decide⟩
    rw [hwords] at hin
    exact h.quote_not_mem (List.mem_filter.mp hin).1
  have hfilter : (' ' :: '"' :: (Text.spaced title ++ ['"'])).filter (· != '"') =
      ' ' :: Text.spaced title := by
    have hkept : (Text.spaced title).filter (· != '"') = Text.spaced title :=
      List.filter_eq_self.mpr fun c hc ↦ bne_iff_ne.mpr fun heq ↦ hspaced (heq ▸ hc)
    simp [List.filter_append, hkept]
  have htitle : Text.plain (' ' :: Text.spaced title) = title := by
    rw [Text.plain_cons_blank (by decide), Text.plain, Text.words_spaced, ← Text.plain, h.plain_eq]
  have hprefix : titleWord.isPrefixOf (titleWord ++ ' ' :: '"' :: (Text.spaced title ++ ['"'])) =
      true := List.isPrefixOf_iff_prefix.mpr (List.prefix_append _ _)
  have hread : read (Layout.titleLine title) =
      ofPlain (titleWord ++ ' ' :: '"' :: (Text.spaced title ++ ['"'])) := by
    rw [read, dropComment_titleLine h, plain_titleLine]
    rfl
  rw [hread, ofPlain, if_pos hprefix, List.drop_left, hfilter, htitle]
  cases title <;> rfl

/-! ### Lines that are no titles -/

/-- A title line begins, behind its blanks, with the word of titles. -/
theorem titleWord_prefix_of_read {line title : Text} (h : read line = .title title) :
    titleWord <+: line.dropWhile isBlank := by
  have hplain : titleWord <+: Text.plain (dropComment line) := by
    unfold read at h
    split at h
    · exact nomatch h
    · obtain ⟨rest, htext, -⟩ := ofPlain_eq_title h
      exact htext ▸ List.prefix_append _ _
  have hkept : titleWord <+: (dropComment line).dropWhile isBlank :=
    Text.prefix_dropWhile_of_prefix_plain (by decide) hplain
  obtain ⟨comment, hcomment⟩ := dropComment_prefix line
  have hne : (dropComment line).dropWhile isBlank ≠ [] :=
    List.ne_nil_of_mem (hkept.subset List.mem_cons_self)
  rw [← hcomment, List.dropWhile_append, if_neg (by simpa using hne)]
  exact hkept.trans (List.prefix_append _ _)

/-- No line is a title if its first character that is not blank begins no title. -/
theorem read_ne_title {front rest : Text} {c : Char} (hfront : ∀ d ∈ front, isBlank d = true)
    (hblank : isBlank c = false) (hc : c ≠ 'k') (title : Text) :
    read (front ++ c :: rest) ≠ .title title := by
  intro h
  have hword := titleWord_prefix_of_read h
  have htitle : titleWord = 'k' :: "eyboard".toList := by decide
  rw [List.dropWhile_append_of_pos hfront, List.dropWhile_cons_of_neg (by simp [hblank]), htitle,
    List.cons_prefix_cons] at hword
  exact hc hword.1.symm

theorem read_keyWord_ne_title (rest title : Text) : read (keyWord ++ rest) ≠ .title title := by
  intro h
  have hword := titleWord_prefix_of_read h
  have hkey : (keyWord ++ rest).dropWhile isBlank = keyWord ++ rest := rfl
  have hnot : titleWord.isPrefixOf (keyWord ++ rest) = false := rfl
  rw [hkey, ← List.isPrefixOf_iff_prefix, hnot] at hword
  exact Bool.false_ne_true hword

end Line

end TermKeys
