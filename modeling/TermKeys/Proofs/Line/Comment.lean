import Mathlib.Tactic.SplitIfs
import TermKeys.Proofs.Line.Tail
import TermKeys.Proofs.Reader.Alike

/-!
What a comment says. The search for a comment counts the quotes behind a number sign, so the quotes
of the comment itself take part in it. A comment with an even number of them is dropped at its
number sign whatever it says. With an odd number the line is cut at a number sign before that one or
goes on past it (`dropComment_append_comment_cases`), so of the two readings one has a tail that the
other has not. Titles and texts to send never keep their tokens then, and commands do unless there
is a quote or a number sign in their descriptor (`unheard_of_tokens`, `tokens_append_comment`). So
one quote in a comment can bring it into the text of its line (`comment_read`), while a reader does
not notice an edit of comments that their lines do not hear (`comment_unread`).
-/

set_option autoImplicit false

namespace TermKeys

namespace Line

/-! ### Comments at the end of a line -/

/-- With an even number of quotes in a comment, every number sign in front of it stands as it would
without the comment. -/
theorem dropComment_append_comment {comment : Text} (h : comment.count '"' % 2 = 0) (line : Text) :
    dropComment (line ++ '#' :: comment) = dropComment line := by
  induction line with
  | nil => exact dropComment_hash h
  | cons c rest ih =>
    have hparity : (rest ++ '#' :: comment).count '"' % 2 = rest.count '"' % 2 := by
      rw [List.count_append, List.count_cons_of_ne (by decide)]
      omega
    rw [List.cons_append, dropComment, dropComment, hparity, ih]

theorem quote_mem_dropComment {text : Text} (h : text.count '"' % 2 = 1) :
    '"' ∈ dropComment text := by
  have hparity := count_quote_dropComment text
  exact List.count_pos_iff.mp (by omega)

/-- With an odd number of quotes in a comment, a line is not cut where it would be cut without the
comment: it is cut at a number sign before, or goes on past one. -/
theorem dropComment_append_comment_cases {comment : Text} (h : comment.count '"' % 2 = 1)
    (line : Text) :
    ∃ front rest, '#' ∉ front ∧ '"' ∈ rest ∧
      (dropComment line = front ∧
          dropComment (line ++ '#' :: comment) = front ++ '#' :: rest ∨
        dropComment line = front ++ '#' :: rest ∧
          dropComment (line ++ '#' :: comment) = front) := by
  induction line with
  | nil =>
    refine ⟨[], dropComment comment, List.not_mem_nil, quote_mem_dropComment h, Or.inl ⟨rfl, ?_⟩⟩
    rw [List.nil_append, dropComment, if_neg fun hand ↦ by omega, List.nil_append]
  | cons c rest ih =>
    have hparity : (rest ++ '#' :: comment).count '"' % 2 = (rest.count '"' + 1) % 2 := by
      rw [List.count_append, List.count_cons_of_ne (by decide)]
      omega
    rw [List.cons_append, dropComment, dropComment, hparity]
    by_cases hc : c = '#'
    · subst hc
      by_cases heven : rest.count '"' % 2 = 0
      · rw [if_pos ⟨rfl, heven⟩, if_neg fun hand ↦ by omega]
        exact ⟨[], _, List.not_mem_nil, quote_mem_dropComment (by omega), Or.inl ⟨rfl, rfl⟩⟩
      · rw [if_neg fun hand ↦ heven hand.2, if_pos ⟨rfl, by omega⟩]
        exact ⟨[], _, List.not_mem_nil, quote_mem_dropComment (by omega), Or.inr ⟨rfl, rfl⟩⟩
    · rw [if_neg fun hand ↦ hc hand.1, if_neg fun hand ↦ hc hand.1]
      obtain ⟨front, more, hhash, hquote, hcut⟩ := ih
      refine ⟨c :: front, more, fun hmem ↦ ?_, hquote, ?_⟩
      · exact (List.mem_cons.mp hmem).elim (fun heq ↦ hc heq.symm) hhash
      · rcases hcut with ⟨hline, hlonger⟩ | ⟨hline, hlonger⟩
        · exact Or.inl ⟨by rw [hline], by rw [hlonger]; rfl⟩
        · exact Or.inr ⟨by rw [hline]; rfl, by rw [hlonger]⟩

theorem read_append_comment {comment : Text} (h : comment.count '"' % 2 = 0) (line : Text) :
    read (line ++ '#' :: comment) = read line := by
  rw [read, dropComment_append_comment h, read]

/-! ### What a comment says -/

/-- A comment that a line does not notice: it has an even number of quotes, or nothing stands in
front of it, or the line is settled. -/
def Unheard (line comment : Text) : Prop :=
  comment.count '"' % 2 = 0 ∨ Text.words (dropComment line) = [] ∨ (read line).Settled

instance (line comment : Text) : Decidable (Unheard line comment) :=
  inferInstanceAs (Decidable (_ ∨ _ ∨ _))

theorem read_of_words {line : Text} (h : Text.words (dropComment line) ≠ []) :
    read line = ofPlain (Text.plain (dropComment line)) := by
  have hplain : Text.plain (dropComment line) ≠ [] := fun hnil ↦ h <| by
    rw [← Text.words_plain, hnil]
    rfl
  rw [read]
  split
  · next hnil => exact absurd hnil hplain
  · rfl

/-- A line without words is read as no words are, but for the remark about it. -/
theorem tokens_read (line : Text) :
    (read line).tokens = (ofPlain (Text.plain (dropComment line))).tokens := by
  by_cases hwords : Text.words (dropComment line) = []
  · rw [read, Text.plain, hwords]
    rfl
  · rw [read_of_words hwords]

theorem settled_ofPlain_iff (line : Text) :
    (ofPlain (Text.plain (dropComment line))).Settled ↔
      Text.words (dropComment line) = [] ∨ (read line).Settled := by
  by_cases hwords : Text.words (dropComment line) = []
  · rw [Text.plain, hwords]
    exact iff_of_true (by decide) (Or.inl rfl)
  · rw [read_of_words hwords, or_iff_right hwords]

/-- A comment with an odd number of quotes changes the tokens of a line, unless the line is settled
or has none. -/
theorem tokens_append_comment_cases {comment : Text} (h : comment.count '"' % 2 = 1)
    (line : Text) :
    (read (line ++ '#' :: comment)).tokens ≠ (read line).tokens ∧
        ¬ (ofPlain (Text.plain (dropComment line))).Settled ∨
      (read (line ++ '#' :: comment)).tokens = (read line).tokens ∧
        ((ofPlain (Text.plain (dropComment line))).Settled ∨
          ∃ words, ofPlain (Text.plain (dropComment line)) = .unreadable words) := by
  obtain ⟨front, rest, hhash, hquote, hcut⟩ := dropComment_append_comment_cases h line
  obtain ⟨tail, htail, hplain⟩ := exists_tail hquote front
  have hfree : '#' ∉ Text.plain front := by rwa [Text.mem_plain_iff (by decide)]
  have hspaces := hplain ▸ Text.not_spaces_infix_plain (front ++ '#' :: rest)
  have hbrings : ∀ token ∈ (ofPlain (Text.plain front ++ tail)).tokens, '#' ∈ token.text →
      (ofPlain (Text.plain front ++ tail)).tokens ≠ (ofPlain (Text.plain front)).tokens :=
    fun token htoken hmem ↦ tokens_ne_of_hash hfree htoken hmem
  rw [tokens_read, tokens_read]
  have hcases := ofPlain_append_tail_cases htail hspaces hfree
  rcases hcut with ⟨hline, hlonger⟩ | ⟨hline, hlonger⟩
  · rw [hline, hlonger, hplain]
    rcases hcases with ⟨⟨token, htoken, hmem⟩, hfront, -⟩ | ⟨hsettled, hsame⟩ | ⟨hshort, hlong⟩
    · exact Or.inl ⟨hbrings token htoken hmem, hfront⟩
    · exact Or.inr ⟨by rw [hsame], Or.inl hsettled⟩
    · exact Or.inr ⟨by rw [hshort, hlong]; rfl, Or.inr ⟨_, hshort⟩⟩
  · rw [hline, hlonger, hplain]
    rcases hcases with ⟨⟨token, htoken, hmem⟩, -, hlong⟩ | ⟨hsettled, hsame⟩ | ⟨hshort, hlong⟩
    · exact Or.inl ⟨(hbrings token htoken hmem).symm, hlong⟩
    · exact Or.inr ⟨by rw [hsame], Or.inl (by rwa [hsame])⟩
    · exact Or.inr ⟨by rw [hshort, hlong]; rfl, Or.inr ⟨_, hlong⟩⟩

/-- A comment that is not heard leaves the tokens of its line as they are. -/
theorem tokens_append_comment {line comment : Text} (h : Unheard line comment) :
    (read (line ++ '#' :: comment)).tokens = (read line).tokens := by
  by_cases heven : comment.count '"' % 2 = 0
  · rw [read_append_comment heven]
  · have hodd : comment.count '"' % 2 = 1 := by omega
    have hsettled := (settled_ofPlain_iff line).mpr (h.resolve_left heven)
    rcases tokens_append_comment_cases hodd line with ⟨-, hnot⟩ | ⟨hsame, -⟩
    · exact absurd hsettled hnot
    · exact hsame

/-- Any other comment changes the tokens of its line, if that has a known form. -/
theorem unheard_of_tokens {line comment : Text} (hknown : ∀ words, read line ≠ .unreadable words)
    (h : (read (line ++ '#' :: comment)).tokens = (read line).tokens) : Unheard line comment := by
  by_cases heven : comment.count '"' % 2 = 0
  · exact Or.inl heven
  · have hodd : comment.count '"' % 2 = 1 := by omega
    refine Or.inr ?_
    rcases tokens_append_comment_cases hodd line with ⟨hne, -⟩ | ⟨-, hsettled | ⟨words, hline⟩⟩
    · exact absurd h hne
    · exact (settled_ofPlain_iff line).mp hsettled
    · by_cases hwords : Text.words (dropComment line) = []
      · exact Or.inl hwords
      · exact absurd ((read_of_words hwords).trans hline) (hknown words)

end Line

/-! ### Comments in a source -/

/-- Lines that differ in what a comment of theirs says at most, which is not heard before or after
the edit. -/
inductive RawLine.Recommented (encoding : Text) : RawLine → RawLine → Prop
  | same (line : RawLine) : Recommented encoding line line
  | edited {before after : RawLine} {line old new : Text} :
    before.decode encoding = .ok (line ++ '#' :: old) →
    after.decode encoding = .ok (line ++ '#' :: new) →
    Line.Unheard line old → Line.Unheard line new → Recommented encoding before after

theorem RawLine.isEmpty_of_decode {encoding text : Text} {line : RawLine}
    (h : line.decode encoding = .ok text) (hne : text ≠ []) : line.isEmpty = false := by
  cases line with
  | text line =>
    obtain rfl := Except.ok.inj h
    exact List.isEmpty_eq_false_iff.mpr hne
  | bytes line =>
    refine List.isEmpty_eq_false_iff.mpr fun hnil ↦ hne ?_
    subst hnil
    unfold decode Encoding.decodeAs at h
    split_ifs at h
    exact (Except.ok.inj h).symm

theorem RawLine.Recommented.alike {settings : Settings} {before after : RawLine}
    (h : RawLine.Recommented settings.inputEncoding before after) :
    RawLine.Alike settings settings before after := by
  cases h with
  | same => exact RawLine.Alike.refl settings before
  | @edited _ line old new hbefore hafter hold hnew =>
    have hne : ∀ comment : Text, line ++ '#' :: comment ≠ [] := fun comment ↦
      List.append_ne_nil_of_right_ne_nil line (List.cons_ne_nil _ _)
    have htokens : (Line.read (line ++ '#' :: old)).tokens =
        (Line.read (line ++ '#' :: new)).tokens :=
      (Line.tokens_append_comment hold).trans (Line.tokens_append_comment hnew).symm
    constructor
    · rw [RawLine.isEmpty_of_decode hbefore (hne old), RawLine.isEmpty_of_decode hafter (hne new)]
    · rw [hbefore, hafter]
      exact congrArg Except.ok (Line.said_eq_of_tokens_eq htokens)

/-- A comment with an even number of quotes does not change what its line is read as. An odd one
does not change the tokens of a blank or settled line, and changes those of every other line that
has a known form. A caller of a reader gets the same title, bindings and faults whatever comments
that are not heard say. -/
theorem Line.comment_unread (line comment : Text) :
    (comment.count '"' % 2 = 0 → read (line ++ '#' :: comment) = read line) ∧
    (Unheard line comment → (read (line ++ '#' :: comment)).tokens = (read line).tokens) ∧
    ((∀ words, read line ≠ .unreadable words) →
      (read (line ++ '#' :: comment)).tokens = (read line).tokens → Unheard line comment) ∧
    ∀ (settings : Settings) (lines edited : List RawLine),
      List.Forall₂ (RawLine.Recommented settings.inputEncoding) lines edited →
      ∀ cs : List Reader.Call,
        Reader.transcript settings lines cs = Reader.transcript settings edited cs := by
  refine ⟨fun heven ↦ read_append_comment heven line, tokens_append_comment, unheard_of_tokens, ?_⟩
  intro settings lines edited h cs
  exact Reader.transcript_congr rfl (h.imp fun _ _ hline ↦ hline.alike) cs

/-- A command, with an odd comment, and an edit of a comment in bytes. -/
theorem Line.comment_unread_quotes :
    (Line.read "key Up : lineUp # 5\" key".toList).tokens =
        (Line.read "key Up : lineUp ".toList).tokens ∧
      Reader.transcript Settings.trial
          [.text "key A : \"#\" # old\n".toList, .bytes (Utf8.encode "key B : up # b".toList)]
          [.take, .step] =
        Reader.transcript Settings.trial
          [.text "key A : \"#\" # old\n".toList, .bytes (Utf8.encode "key B : up # \"é".toList)]
          [.take, .step] := by
  have hread := comment_unread "key Up : lineUp ".toList " 5\" key".toList
  refine ⟨hread.2.1 (by decide +kernel), hread.2.2.2 Settings.trial _ _ ?_ _⟩
  refine .cons (.same _) (.cons ?_ .nil)
  exact @RawLine.Recommented.edited _ _ _ "key B : up ".toList " b".toList " \"é".toList
    (by decide +kernel) (by decide +kernel) (by decide +kernel) (by decide +kernel)

/-- One quote in a comment: the line itself has two of them, and its text now goes on to that in the
comment. -/
theorem Line.comment_read :
    ("key A : \"x\" ".toList.count '"' % 2 = 0 ∧ '\n' ∉ " 5\" key".toList) ∧
      (Line.read ("key A : \"x\" ".toList ++ '#' :: " 5\" key".toList)).tokens ≠
        (Line.read "key A : \"x\" ".toList).tokens := by
  decide +kernel

end TermKeys
