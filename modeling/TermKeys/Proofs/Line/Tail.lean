import Mathlib.Data.List.Infix
import TermKeys.Proofs.Line

/-!
Lines with a tail. A number sign that opens no comment stays in its line with all that is behind it,
a quote among that (`IsTail`). Whether a line is read as it would be without the tail depends on the
quotes in front of it: a quote that opens behind a colon is closed in the tail at the latest, so a
text to send runs on into the tail (`action?_append_of_opens`), and any other action stays as it is
(`action?_append_of_not_opens`). A line that is read otherwise shows the number sign in one of its
tokens, and the line without the tail cannot have it there (`ofPlain_append_tail_cases`).
-/

set_option autoImplicit false

namespace TermKeys.Line

open Unicode

/-- What a line goes on with at a number sign that opens no comment, a space before it included. -/
def IsTail (tail : Text) : Prop :=
  ∃ gap rest, (gap = [] ∨ gap = [' ']) ∧ '"' ∈ rest ∧ tail = gap ++ '#' :: rest

/-- Whether a quote opens at the front of the text after a colon. -/
def OpensQuote (text : Text) : Prop := ['"'] <+: text ∨ [' ', '"'] <+: text

/-- Whether a quote opens behind a colon of a text. -/
def HasOpening (text : Text) : Prop := ∃ after, ':' :: after <:+ text ∧ OpensQuote after

variable {text tail before : Text} {action : Action}

/-- Where two characters that differ stand in one text, one of them is in front. -/
theorem append_cons_eq_append_cons {α : Type} {a b : α} (hne : a ≠ b) {x y z w : List α}
    (h : x ++ a :: y = z ++ b :: w) :
    (∃ inner, z = x ++ a :: inner ∧ y = inner ++ b :: w) ∨
      ∃ inner, x = z ++ b :: inner ∧ w = inner ++ a :: y := by
  rcases List.append_eq_append_iff.mp h with ⟨middle, rfl, hmiddle⟩ | ⟨middle, rfl, hmiddle⟩
  · rcases List.append_eq_cons_iff.mp hmiddle.symm with ⟨-, hhead⟩ | ⟨inner, rfl, hrest⟩
    · exact absurd (List.cons.inj hhead).1.symm hne
    · exact Or.inl ⟨inner, rfl, hrest⟩
  · rcases List.append_eq_cons_iff.mp hmiddle.symm with ⟨-, hhead⟩ | ⟨inner, rfl, hrest⟩
    · exact absurd (List.cons.inj hhead).1 hne
    · exact Or.inr ⟨inner, rfl, hrest⟩

/-- From a number sign on, the plain form of a text is a tail. -/
theorem exists_tail {rest : Text} (h : '"' ∈ rest) (front : Text) :
    ∃ tail, IsTail tail ∧ Text.plain (front ++ '#' :: rest) = Text.plain front ++ tail := by
  have hhash : isBlank '#' = false := by decide
  obtain ⟨gap, hgap, hplain⟩ := Text.exists_plain_append hhash front rest
  obtain ⟨more, hmore⟩ := Text.exists_plain_cons hhash rest
  have hquote : '"' ∈ Text.plain ('#' :: rest) :=
    (Text.mem_plain_iff (by decide)).mpr (List.mem_cons_of_mem _ h)
  rw [hmore] at hplain hquote
  exact ⟨gap ++ '#' :: more, ⟨gap, more, hgap, by simpa using hquote, rfl⟩, hplain⟩

/-! ### Actions -/

theorem OpensQuote.exists_action? (h : OpensQuote text) :
    ∃ rest, ∀ more, action? (text ++ more) =
      (Text.splitLast? '"' (rest ++ more)).map fun parts ↦ .send parts.1 := by
  rcases h with ⟨rest, rfl⟩ | ⟨rest, rfl⟩
  · exact ⟨rest, fun more ↦ by simp [action?]⟩
  · exact ⟨rest, fun more ↦ by simp [action?]⟩

/-- A quote that opens in front of a tail is closed in it. -/
theorem action?_append_of_opens (htail : IsTail tail) (h : OpensQuote text) :
    ∃ body, action? (text ++ tail) = some (.send body) ∧ '#' ∈ body := by
  obtain ⟨rest, haction⟩ := h.exists_action?
  obtain ⟨gap, more, -, hquote, rfl⟩ := htail
  have hmem : '"' ∈ rest ++ (gap ++ '#' :: more) := by simp [hquote]
  obtain ⟨⟨body, after⟩, hsplit⟩ :=
    Option.ne_none_iff_exists'.mp (fun hnone ↦ Text.splitLast?_eq_none.mp hnone hmem)
  obtain ⟨heq, hafter⟩ := Text.splitLast?_eq_some hsplit
  refine ⟨body, by rw [haction, hsplit]; rfl, ?_⟩
  rw [← List.append_assoc] at heq
  rcases append_cons_eq_append_cons (by decide) heq with ⟨inner, rfl, -⟩ | ⟨inner, -, rfl⟩
  · simp
  · exact absurd (List.mem_append_right _ (List.mem_cons_of_mem _ hquote)) hafter

/-- No word goes on into a tail. -/
theorem takeWhile_append_tail (htail : IsTail tail) (word : Text) :
    (word ++ tail).takeWhile isWordChar = word.takeWhile isWordChar := by
  have hnil : tail.takeWhile isWordChar = [] := by
    obtain ⟨gap, rest, hgap, -, rfl⟩ := htail
    have hhash : isWordChar '#' = false := by decide +kernel
    have hspace : isWordChar ' ' = false := by decide +kernel
    rcases hgap with rfl | rfl
    · exact List.takeWhile_cons_of_neg (by simp [hhash])
    · exact List.takeWhile_cons_of_neg (by simp [hspace])
  induction word with
  | nil => exact hnil
  | cons c rest ih => rw [List.cons_append, List.takeWhile_cons, List.takeWhile_cons, ih]

/-- Where no quote opens there is the same action with a tail as without it. -/
theorem action?_append_of_not_opens (htail : IsTail tail) (h : ¬ OpensQuote text) :
    action? (text ++ tail) = action? text := by
  have hword := takeWhile_append_tail htail
  obtain ⟨gap, rest, hgap, -, rfl⟩ := htail
  have hhash : isWordChar '#' = false := by decide +kernel
  have hspace : isWordChar ' ' = false := by decide +kernel
  rcases text with _ | ⟨c, more⟩
  · rcases hgap with rfl | rfl <;> simp [action?, hhash]
  · by_cases hc : c = ' '
    · subst hc
      rcases more with _ | ⟨d, letters⟩
      · rcases hgap with rfl | rfl <;> simp [action?, hhash, hspace]
      · have hd : d ≠ '"' := by
          rintro rfl
          exact h (Or.inr (List.prefix_append [' ', '"'] letters))
        simp [action?, hd, hword]
    · have hquote : c ≠ '"' := by
        rintro rfl
        exact h (Or.inl (List.prefix_append ['"'] more))
      simp [action?, hc, hquote, hword]

/-- A text to send begins with a quote. -/
theorem opensQuote_of_action? {body : Text} (h : action? text = some (.send body)) :
    OpensQuote text := by
  obtain ⟨c, rest, rfl | rfl, ⟨rfl, -⟩ | hword⟩ := action?_eq_some h
  · exact Or.inl (List.prefix_append ['"'] rest)
  · exact nomatch hword
  · exact Or.inr (List.prefix_append [' ', '"'] rest)
  · exact nomatch hword

/-- Behind a quote that opens there is a text to send or no action. -/
theorem exists_send_of_action? (hopens : OpensQuote text) (h : action? text = some action) :
    ∃ body, action = .send body := by
  obtain ⟨rest, haction⟩ := hopens.exists_action?
  rw [← List.append_nil text, haction] at h
  obtain ⟨parts, -, rfl⟩ := Option.map_eq_some_iff.mp h
  exact ⟨parts.1, rfl⟩

/-! ### Splitting -/

/-- A quote opens in front of a colon or not at all. -/
theorem opensQuote_append_colon {front after : Text} :
    OpensQuote (front ++ ':' :: after) ↔ OpensQuote front := by
  rcases front with _ | ⟨c, _ | ⟨d, more⟩⟩ <;> simp [OpensQuote, List.cons_prefix_cons]

theorem hasOpening_cons {c : Char} :
    HasOpening (c :: text) ↔ c = ':' ∧ OpensQuote text ∨ HasOpening text := by
  simp only [HasOpening, List.suffix_cons_iff, List.cons.injEq, or_and_right, exists_or]
  refine or_congr_left ⟨?_, ?_⟩
  · rintro ⟨after, ⟨rfl, rfl⟩, hopens⟩
    exact ⟨rfl, hopens⟩
  · rintro ⟨rfl, hopens⟩
    exact ⟨text, ⟨rfl, rfl⟩, hopens⟩

/-- With a tail behind it a text is split as without it, unless a quote opens behind a colon up to
its action; then it is split at a text to send. -/
theorem splitAction?_append_tail (htail : IsTail tail)
    (h : splitAction? text = some (before, action)) :
    ((∃ body, action = .send body) ∨ HasOpening before) ∧
        (∃ front body, splitAction? (text ++ tail) = some (front, .send body)) ∨
      ¬ ((∃ body, action = .send body) ∨ HasOpening before) ∧
        splitAction? (text ++ tail) = some (before, action) := by
  induction text generalizing before with
  | nil => exact nomatch h
  | cons c rest ih =>
    rw [List.cons_append]
    simp only [splitAction?_cons_eq_some]
    rcases splitAction?_cons_eq_some.mp h with ⟨rfl, hfound, rfl⟩ | ⟨hnone, more, hmore, rfl⟩
    · by_cases hquote : OpensQuote rest
      · obtain ⟨body, haction, -⟩ := action?_append_of_opens htail hquote
        have hsend := exists_send_of_action? hquote hfound
        exact Or.inl ⟨Or.inl hsend, [], body, Or.inl ⟨rfl, haction, rfl⟩⟩
      · have haction : action? (rest ++ tail) = some action :=
          (action?_append_of_not_opens htail hquote).trans hfound
        refine Or.inr ⟨?_, Or.inl ⟨rfl, haction, rfl⟩⟩
        rintro (⟨body, rfl⟩ | ⟨after, hsuffix, -⟩)
        · exact hquote (opensQuote_of_action? hfound)
        · exact nomatch List.suffix_nil.mp hsuffix
    · obtain ⟨after, rfl, -⟩ := splitAction?_eq_some hmore
      by_cases hopens : c = ':' ∧ OpensQuote (more ++ ':' :: after)
      · obtain ⟨rfl, hquote⟩ := hopens
        obtain ⟨body, haction, -⟩ := action?_append_of_opens htail hquote
        have hopening : HasOpening (':' :: more) :=
          hasOpening_cons.mpr (Or.inl ⟨rfl, opensQuote_append_colon.mp hquote⟩)
        exact Or.inl ⟨Or.inr hopening, [], body, Or.inl ⟨rfl, haction, rfl⟩⟩
      · have hstill : c = ':' → action? (more ++ ':' :: after ++ tail) = none := fun hc ↦
          (action?_append_of_not_opens htail fun hquote ↦ hopens ⟨hc, hquote⟩).trans (hnone hc)
        rw [opensQuote_append_colon] at hopens
        rw [hasOpening_cons, or_iff_right hopens]
        exact (ih hmore).imp
          (fun ⟨hopening, front, body, hsplit⟩ ↦
            ⟨hopening, c :: front, body, Or.inr ⟨hstill, front, hsplit, rfl⟩⟩)
          fun ⟨hopening, hsplit⟩ ↦ ⟨hopening, Or.inr ⟨hstill, more, hsplit, rfl⟩⟩

/-- A split in front of the number sign of a tail is that of the text without the tail, or it is at
a text to send, which goes on past the sign. -/
theorem splitAction?_of_append (htail : IsTail tail) (hhash : '#' ∉ before)
    (h : splitAction? (text ++ tail) = some (before, action)) :
    (∃ body, action = .send body ∧ '#' ∈ body) ∨
      (∀ body, action ≠ .send body) ∧ splitAction? text = some (before, action) := by
  induction text generalizing before with
  | nil =>
    obtain ⟨after, heq, -⟩ := splitAction?_eq_some h
    obtain ⟨gap, rest, hgap, -, rfl⟩ := htail
    rw [List.nil_append] at heq
    have hcolon : ':' ∉ gap := by rcases hgap with rfl | rfl <;> decide
    rcases append_cons_eq_append_cons (by decide) heq with ⟨inner, rfl, -⟩ | ⟨inner, rfl, -⟩
    · exact absurd (by simp) hhash
    · exact absurd (by simp) hcolon
  | cons c rest ih =>
    rw [List.cons_append] at h
    rw [splitAction?_cons_eq_some]
    rcases splitAction?_cons_eq_some.mp h with ⟨rfl, hfound, rfl⟩ | ⟨hnone, more, hmore, rfl⟩
    · by_cases hquote : OpensQuote rest
      · obtain ⟨body, haction, hbody⟩ := action?_append_of_opens htail hquote
        obtain rfl := Option.some.inj (hfound.symm.trans haction)
        exact Or.inl ⟨body, rfl, hbody⟩
      · rw [action?_append_of_not_opens htail hquote] at hfound
        refine Or.inr ⟨?_, Or.inl ⟨rfl, hfound, rfl⟩⟩
        rintro body rfl
        exact hquote (opensQuote_of_action? hfound)
    · have hfree : '#' ∉ more := fun hmem ↦ hhash (List.mem_cons_of_mem c hmem)
      refine (ih hfree hmore).imp_right fun ⟨hsend, hsplit⟩ ↦ ⟨hsend, Or.inr ⟨fun hc ↦ ?_, ?_⟩⟩
      · have hquote : ¬ OpensQuote rest := fun hquote ↦ by
          obtain ⟨body, haction, -⟩ := action?_append_of_opens htail hquote
          exact nomatch haction.symm.trans (hnone hc)
        exact (action?_append_of_not_opens htail hquote).symm.trans (hnone hc)
      · exact ⟨more, hsplit, rfl⟩

/-! ### Descriptors -/

theorem opensQuote_iff (hspaces : ¬ [' ', ' '] <:+: text) :
    OpensQuote text ↔ ['"'] <+: text.filter (· != ' ') := by
  rcases text with _ | ⟨c, rest⟩
  · simp [OpensQuote]
  · by_cases hc : c = ' '
    · subst hc
      rcases rest with _ | ⟨d, more⟩
      · simp [OpensQuote, List.cons_prefix_cons]
      · have hd : d ≠ ' ' := by
          rintro rfl
          exact hspaces (List.prefix_append [' ', ' '] more).isInfix
        simp [OpensQuote, List.cons_prefix_cons, hd]
    · simp [OpensQuote, List.cons_prefix_cons, hc, Ne.symm hc]

/-- A quote that opens behind a colon does so in a text without its spaces too. -/
theorem hasOpening_iff (hspaces : ¬ [' ', ' '] <:+: text) :
    HasOpening text ↔ [':', '"'] <:+: text.filter (· != ' ') := by
  induction text with
  | nil => simp [HasOpening]
  | cons c rest ih =>
    have hrest : ¬ [' ', ' '] <:+: rest := fun h ↦ hspaces (List.infix_cons h)
    rw [hasOpening_cons, opensQuote_iff hrest, ih hrest, List.filter_cons]
    by_cases hc : c = ' '
    · subst hc
      simp
    · rw [if_pos (by simpa using hc), List.infix_cons_iff, List.cons_prefix_cons, eq_comm (a := c)]

/-! ### Lines -/

/-- What has no space at its end and no number sign does not reach into a tail. -/
theorem prefix_of_prefix_append_tail (htail : IsTail tail) {word : Text} (hhash : '#' ∉ word)
    (hspace : word.getLast? ≠ some ' ') (h : word <+: text ++ tail) : word <+: text := by
  rcases List.prefix_or_prefix_of_prefix h (List.prefix_append text tail) with hword | ⟨more, rfl⟩
  · exact hword
  obtain ⟨gap, rest, hgap, -, rfl⟩ := htail
  rw [List.prefix_append_right_inj] at h
  have hmore : more <+: gap := by
    rcases List.prefix_or_prefix_of_prefix h (List.prefix_append gap ('#' :: rest)) with
      hmore | ⟨letters, rfl⟩
    · exact hmore
    · rw [List.prefix_append_right_inj] at h
      cases letters with
      | nil => simp
      | cons c others =>
        obtain rfl := (List.cons_prefix_cons.mp h).1
        exact absurd (by simp) hhash
  rcases hgap with rfl | rfl
  · simp [List.prefix_nil.mp hmore]
  · rcases List.prefix_cons_iff.mp hmore with rfl | ⟨letters, rfl, hletters⟩
    · simp
    · obtain rfl := List.prefix_nil.mp hletters
      exact absurd List.getLast?_concat hspace

/-- A title goes on into a tail. -/
theorem ofPlain_title_append_tail (htail : IsTail tail) (h : titleWord <+: text) :
    ∃ title, ofPlain (text ++ tail) = .title title ∧ '#' ∈ title := by
  obtain ⟨rest, rfl⟩ := h
  obtain ⟨gap, more, -, -, rfl⟩ := htail
  have hprefix : titleWord.isPrefixOf (titleWord ++ (rest ++ (gap ++ '#' :: more))) = true :=
    List.isPrefixOf_iff_prefix.mpr (List.prefix_append _ _)
  have hmem : '#' ∈ Text.plain ((rest ++ (gap ++ '#' :: more)).filter (· != '"')) := by
    rw [Text.mem_plain_iff (by decide), List.mem_filter]
    exact ⟨by simp, by decide⟩
  obtain ⟨c, title, htitle⟩ := List.exists_cons_of_ne_nil (List.ne_nil_of_mem hmem)
  refine ⟨c :: title, ?_, htitle ▸ hmem⟩
  rw [List.append_assoc, ofPlain, if_pos hprefix, List.drop_left, htitle]

/-- With a tail behind it a key line is read as without it, unless a quote opens in front of the
tail; then it sends a text. -/
theorem ofPlain_key_append_tail (htail : IsTail tail) (hspaces : ¬ [' ', ' '] <:+: text ++ tail)
    {descriptor : Text} (h : ofPlain text = .key descriptor action) :
    ((∃ body, action = .send body) ∨ [':', '"'] <:+: descriptor.tail) ∧
        (∃ other body, ofPlain (text ++ tail) = .key other (.send body)) ∨
      ¬ ((∃ body, action = .send body) ∨ [':', '"'] <:+: descriptor.tail) ∧
        ofPlain (text ++ tail) = .key descriptor action := by
  obtain ⟨c, rest, before, rfl, hsplit, rfl⟩ := ofPlain_eq_key h
  obtain ⟨after, hrest, -⟩ := splitAction?_eq_some hsplit
  have hc : c ≠ ' ' := by
    rintro rfl
    exact hspaces ⟨"key".toList, rest ++ tail, by simp [keyWord]⟩
  have hfilter : (c :: before).filter (· != ' ') = c :: before.filter (· != ' ') :=
    List.filter_cons_of_pos (bne_iff_ne.mpr hc)
  have hbefore : ¬ [' ', ' '] <:+: before := fun hpair ↦ hspaces <| hpair.trans <|
    ⟨keyWord ++ [c], ':' :: after ++ tail, by simp [hrest]⟩
  have htext : keyWord ++ c :: rest ++ tail = keyWord ++ c :: (rest ++ tail) := by simp
  rw [hfilter, List.tail_cons, ← hasOpening_iff hbefore, htext, ofPlain_keyWord]
  rcases splitAction?_append_tail htail hsplit with ⟨hopening, front, body, htailed⟩ |
    ⟨hopening, htailed⟩
  · exact Or.inl ⟨hopening, _, body, by rw [htailed]⟩
  · exact Or.inr ⟨hopening, by rw [htailed, ← hfilter]⟩

/-- A key line with a tail is that without it and sends no text, or the number sign is in its
descriptor or in the text that it sends. -/
theorem ofPlain_key_of_append_tail (htail : IsTail tail) (hspaces : ¬ [' ', ' '] <:+: text ++ tail)
    {descriptor : Text} (hhash : '#' ∉ descriptor)
    (h : ofPlain (text ++ tail) = .key descriptor action) :
    (∃ body, action = .send body ∧ '#' ∈ body) ∨
      (∀ body, action ≠ .send body) ∧ ofPlain text = .key descriptor action := by
  obtain ⟨c, rest, before, htext, hsplit, rfl⟩ := ofPlain_eq_key h
  have hc : c ≠ ' ' := by
    rintro rfl
    exact hspaces ⟨"key".toList, rest, htext.symm⟩
  rw [List.filter_cons_of_pos (by simpa using hc), List.mem_cons, not_or] at hhash
  have hbefore : '#' ∉ before := fun hmem ↦ hhash.2 (List.mem_filter.mpr ⟨hmem, by decide⟩)
  have hprefix : keyWord ++ [c] <+: text := by
    refine prefix_of_prefix_append_tail htail ?_ ?_ ⟨rest, by simp [htext]⟩
    · simpa [keyWord] using hhash.1
    · rw [List.getLast?_concat]
      exact fun hspace ↦ hc (Option.some.inj hspace)
  obtain ⟨more, rfl⟩ := hprefix
  obtain rfl : more ++ tail = rest := by simpa [List.append_assoc] using htext
  rw [List.append_assoc, List.singleton_append, ofPlain_keyWord]
  exact (splitAction?_of_append htail hbefore hsplit).imp_right
    fun ⟨hsend, hmore⟩ ↦ ⟨hsend, by rw [hmore]⟩

/-! ### Tokens -/

/-- The tokens of a line are of its characters and spaces. -/
theorem mem_of_mem_tokens {token : Token} (h : token ∈ (ofPlain text).tokens) {c : Char}
    (hc : c ∈ token.text) : c = ' ' ∨ c ∈ text := by
  cases hline : ofPlain text with
  | nothing | unreadable words =>
    rw [hline] at h
    exact nomatch h
  | title title =>
    obtain ⟨rest, rfl, rfl⟩ := ofPlain_eq_title hline
    rw [hline] at h
    simp only [tokens, List.mem_cons, List.not_mem_nil, or_false] at h
    rcases h with rfl | rfl
    · exact nomatch hc
    · refine (Text.mem_plain hc).imp_right fun hmem ↦ List.mem_append_right _ ?_
      exact (List.mem_filter.mp hmem.1).1
  | key descriptor action =>
    obtain ⟨first, rest, before, rfl, hsplit, rfl⟩ := ofPlain_eq_key hline
    obtain ⟨after, rfl, hafter⟩ := splitAction?_eq_some hsplit
    rw [hline] at h
    simp only [tokens, List.mem_cons, List.not_mem_nil, or_false] at h
    refine Or.inr (List.mem_append_right _ ?_)
    rcases h with rfl | rfl | rfl
    · exact nomatch hc
    · rw [← List.cons_append]
      exact List.mem_append_left _ (List.mem_filter.mp hc).1
    · exact List.mem_cons_of_mem _ (List.mem_append_right _
        (List.mem_cons_of_mem _ (subset_of_action? hafter hc)))

theorem tokens_ne_of_hash (hhash : '#' ∉ text) {line : Line} {token : Token}
    (htoken : token ∈ line.tokens) (hmem : '#' ∈ token.text) :
    line.tokens ≠ (ofPlain text).tokens := by
  intro heq
  rcases mem_of_mem_tokens (heq ▸ htoken) hmem with hspace | htext
  · exact absurd hspace (by decide)
  · exact hhash htext

/-! ### Settled lines -/

/-- Lines that no tail changes. In front of a command no quote opens, and a number sign there would
be that of a tail. A line of no known form is settled if it has such a tail already or is not on its
way to a key line. -/
def Settled : Line → Prop
  | nothing | title _ | key _ (.send _) => False
  | key descriptor (.command _) => '#' ∉ descriptor ∧ ¬ [':', '"'] <:+: descriptor.tail
  | unreadable words => '#' ∈ words ∨ ¬ "key".toList <+: words

instance : (line : Line) → Decidable line.Settled
  | nothing | title _ | key _ (.send _) => isFalse not_false
  | key _ (.command _) => inferInstanceAs (Decidable (_ ∧ _))
  | unreadable _ => inferInstanceAs (Decidable (_ ∨ _))

theorem not_settled_of_title (h : titleWord <+: text) : ¬ (ofPlain text).Settled := by
  rw [ofPlain, if_pos (List.isPrefixOf_iff_prefix.mpr h)]
  split <;> exact not_false

theorem ofPlain_of_not_title (h : ¬ titleWord <+: text) :
    ofPlain text = .unreadable text ∨
      ∃ descriptor action, ofPlain text = .key descriptor action := by
  rw [ofPlain, if_neg (mt List.isPrefixOf_iff_prefix.mp h)]
  split_ifs
  · split
    · exact Or.inl rfl
    · split
      · exact Or.inr ⟨_, _, rfl⟩
      · exact Or.inl rfl
  · exact Or.inl rfl

section Settled

variable (htail : IsTail tail) (hspaces : ¬ [' ', ' '] <:+: text ++ tail) (hhash : '#' ∉ text)
include htail hspaces hhash

/-- A settled line that is a key line with a tail behind it is the same key line without it. -/
theorem ofPlain_eq_key_of_settled (h : (ofPlain text).Settled) {descriptor : Text}
    (hkey : ofPlain (text ++ tail) = .key descriptor action) :
    ofPlain text = .key descriptor action := by
  have htitle : ¬ titleWord <+: text := fun htitle ↦ not_settled_of_title htitle h
  rcases ofPlain_of_not_title htitle with hline | ⟨front, first, hline⟩
  · rw [hline] at h
    obtain ⟨c, rest, before, hwords, -⟩ := ofPlain_eq_key hkey
    have hprefix : "key".toList <+: text ++ tail := ⟨' ' :: c :: rest, hwords.symm⟩
    have hword := prefix_of_prefix_append_tail htail (by decide) (by decide) hprefix
    exact absurd h (not_or.mpr ⟨hhash, not_not.mpr hword⟩)
  · rw [hline] at h
    rcases ofPlain_key_append_tail htail hspaces hline with ⟨hsend | hopening, -⟩ | ⟨-, hsame⟩
    · obtain ⟨body, rfl⟩ := hsend
      exact absurd h not_false
    · cases first with
      | send body => exact absurd h not_false
      | command word => exact absurd hopening h.2
    · rw [hline, ← hsame, hkey]

/-- With a tail behind it a line has the number sign of the tail in its tokens; or it is settled and
read as without the tail; or it has no known form with the tail, and none without it. -/
theorem ofPlain_append_tail_cases :
    ((∃ token ∈ (ofPlain (text ++ tail)).tokens, '#' ∈ token.text) ∧
        ¬ (ofPlain text).Settled ∧ ¬ (ofPlain (text ++ tail)).Settled) ∨
      (ofPlain text).Settled ∧ ofPlain (text ++ tail) = ofPlain text ∨
        ofPlain text = .unreadable text ∧ ofPlain (text ++ tail) = .unreadable (text ++ tail) := by
  by_cases htitle : titleWord <+: text
  · obtain ⟨title, hline, hmem⟩ := ofPlain_title_append_tail htail htitle
    refine Or.inl ⟨⟨⟨.titleText, title⟩, by simp [hline, tokens], hmem⟩, ?_, ?_⟩
    · exact not_settled_of_title htitle
    · exact not_settled_of_title (htitle.trans (List.prefix_append text tail))
  have hlonger : ¬ titleWord <+: text ++ tail := fun h ↦
    htitle (prefix_of_prefix_append_tail htail (by decide) (by decide) h)
  rcases ofPlain_of_not_title hlonger with hline | ⟨descriptor, action, hkey⟩
  · rcases ofPlain_of_not_title htitle with hshort | ⟨front, first, hshort⟩
    · exact Or.inr (Or.inr ⟨hshort, hline⟩)
    · rcases ofPlain_key_append_tail htail hspaces hshort with ⟨-, _, _, hkey⟩ | ⟨-, hkey⟩
      · exact nomatch hline.symm.trans hkey
      · exact nomatch hline.symm.trans hkey
  -- A settled line would be the same key line, and has no number sign in its tokens.
  have hunsettled : ∀ token ∈ (ofPlain (text ++ tail)).tokens, '#' ∈ token.text →
      ¬ (ofPlain text).Settled := by
    intro token htoken hmem h
    have hsame := ofPlain_eq_key_of_settled htail hspaces hhash h hkey
    exact tokens_ne_of_hash hhash htoken hmem (congrArg tokens (hkey.trans hsame.symm))
  by_cases hdescriptor : '#' ∈ descriptor
  · have htoken : ⟨.keySequence, descriptor⟩ ∈ (ofPlain (text ++ tail)).tokens := by
      simp [hkey, tokens]
    refine Or.inl ⟨⟨_, htoken, hdescriptor⟩, hunsettled _ htoken hdescriptor, ?_⟩
    rw [hkey]
    cases action with
    | send body => exact not_false
    | command word => exact fun h ↦ h.1 hdescriptor
  · rcases ofPlain_key_of_append_tail htail hspaces hdescriptor hkey with ⟨body, rfl, hbody⟩ |
      ⟨hsend, hsame⟩
    · have htoken : ⟨.outputText, body⟩ ∈ (ofPlain (text ++ tail)).tokens := by
        simp [hkey, tokens, Action.token]
      refine Or.inl ⟨⟨_, htoken, hbody⟩, hunsettled _ htoken hbody, ?_⟩
      rw [hkey]
      exact not_false
    · refine Or.inr (Or.inl ⟨?_, hkey.trans hsame.symm⟩)
      rcases ofPlain_key_append_tail htail hspaces hsame with ⟨-, _, body, hother⟩ | ⟨hopening, -⟩
      · exact absurd (Line.key.inj (hkey.symm.trans hother)).2 (hsend body)
      · rw [hsame]
        cases action with
        | send body => exact absurd rfl (hsend body)
        | command word => exact ⟨hdescriptor, (not_or.mp hopening).2⟩

end Settled

end TermKeys.Line
