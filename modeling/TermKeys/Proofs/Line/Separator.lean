import TermKeys.Proofs.Line.Comment
import TermKeys.Proofs.Line.Pattern

/-!
What a key line is. In words one space apart a colon separates a descriptor from an action if at
least one character of a key line stands in front of it and an action begins behind it
(`Line.IsSeparator`). A line that is no title is a key line just when its words have a separator,
and the first one says what its descriptor and its action are (`read_separator`).
-/

set_option autoImplicit false

namespace TermKeys.Line

open Unicode Pattern

/-! ### Separators -/

/-- An action begins here: a word, or a text between two quotes. -/
def BeginsAction (text : Text) : Prop :=
  (∃ c, text.head? = some c ∧ isWordChar c = true) ∨ text.head? = some '"' ∧ '"' ∈ text.tail

/-- What stands behind a place of a text, less one space. -/
def behind (text : Text) (place : Nat) : Text := dropSpace (text.drop (place + 1))

/-- A colon between a descriptor and an action. -/
structure IsSeparator (text : Text) (place : Nat) : Prop where
  key : keyWord <+: text
  le_place : 5 ≤ place
  colon : text[place]? = some ':'
  action : BeginsAction (behind text place)

/-- The token of the action that begins a text: what is between the first quote and the last, or the
longest word. -/
def IsActionToken (text : Text) (token : Token) : Prop :=
  (∃ sent after, text = '"' :: sent ++ '"' :: after ∧ '"' ∉ after ∧ token = ⟨.outputText, sent⟩) ∨
    text.head? ≠ some '"' ∧ token = ⟨.command, text.takeWhile isWordChar⟩

/-! ### Actions -/

variable {text : Text} {action : Action}

theorem action?_eq_none_iff (text : Text) :
    action? text = none ↔ ¬ BeginsAction (dropSpace text) := by
  have hquote : isWordChar '"' = false := by decide +kernel
  rw [action?, ← dropSpace, BeginsAction]
  cases dropSpace text with
  | nil => simp
  | cons c rest =>
    by_cases hc : c = '"'
    · subst hc
      simp [hquote, Text.splitLast?_eq_none]
    · simp [hc]

theorem isActionToken_of_action? (h : action? text = some action) :
    IsActionToken (dropSpace text) action.token := by
  rw [action?, ← dropSpace] at h
  cases hdrop : dropSpace text with
  | nil =>
    rw [hdrop] at h
    cases h
  | cons c rest =>
    rw [hdrop] at h
    dsimp only at h
    split_ifs at h with hquote hword
    · obtain ⟨parts, hparts, rfl⟩ := Option.map_eq_some_iff.mp h
      obtain ⟨hrest, hafter⟩ := Text.splitLast?_eq_some hparts
      exact Or.inl ⟨parts.1, parts.2, by rw [hquote, hrest]; rfl, hafter, rfl⟩
    · obtain rfl := Option.some.inj h
      refine Or.inr ⟨fun hhead ↦ hquote (Option.some.inj hhead), ?_⟩
      rw [List.takeWhile_cons_of_pos hword]
      rfl

/-! ### The first colon with an action -/

/-- Where a text is not split, none of its colons has an action behind it. -/
theorem action?_of_splitAction? (h : splitAction? text = none) {place : Nat}
    (hcolon : text[place]? = some ':') : action? (text.drop (place + 1)) = none := by
  induction text generalizing place with
  | nil => cases hcolon
  | cons c rest ih =>
    rw [splitAction?] at h
    split at h
    · cases h
    · next hnone =>
      cases place with
      | zero => rwa [if_pos (Option.some.inj hcolon)] at hnone
      | succ place => exact ih (Option.map_eq_none_iff.mp h) hcolon

/-- A text is split at the first colon with an action behind it. -/
theorem place_of_splitAction? {before : Text} (h : splitAction? text = some (before, action)) :
    before = text.take before.length ∧ text[before.length]? = some ':' ∧
      action? (text.drop (before.length + 1)) = some action ∧
      ∀ place < before.length, text[place]? = some ':' →
        action? (text.drop (place + 1)) = none := by
  induction text generalizing before with
  | nil => exact nomatch h
  | cons c rest ih =>
    rcases splitAction?_cons_eq_some.mp h with ⟨rfl, hfound, rfl⟩ | ⟨hnone, more, hmore, rfl⟩
    · exact ⟨rfl, rfl, hfound, fun place hplace ↦ absurd hplace (Nat.not_lt_zero _)⟩
    · obtain ⟨htake, hcolon, haction, hearlier⟩ := ih hmore
      refine ⟨by rw [List.length_cons, List.take_succ_cons, ← htake], hcolon, haction,
        fun place hplace hat ↦ ?_⟩
      cases place with
      | zero => exact hnone (Option.some.inj hat)
      | succ place => exact hearlier place (Nat.lt_of_succ_lt_succ hplace) hat

/-! ### Key lines -/

/-- A separator is a colon with an action behind it, from the second character behind the keyword
on. -/
theorem isSeparator_iff {c : Char} {rest : Text} {place : Nat} :
    IsSeparator (keyWord ++ c :: rest) (place + 5) ↔
      rest[place]? = some ':' ∧ ∃ action, action? (rest.drop (place + 1)) = some action := by
  rw [← Option.isSome_iff_exists, ← Option.ne_none_iff_isSome, Ne, action?_eq_none_iff, not_not]
  constructor
  · intro h
    exact ⟨h.colon, h.action⟩
  · rintro ⟨hcolon, haction⟩
    exact ⟨List.prefix_append _ _, Nat.le_add_left _ _, hcolon, haction⟩

theorem ofPlain_of_no_separator (htitle : ¬ titleWord <+: text)
    (hnone : ∀ place, ¬ IsSeparator text place) : ofPlain text = .unreadable text := by
  by_cases hkey : keyWord <+: text
  · obtain ⟨rest, rfl⟩ := hkey
    cases rest with
    | nil => rfl
    | cons c more =>
      rw [ofPlain_keyWord]
      cases hsplit : splitAction? more with
      | none => rfl
      | some parts =>
        obtain ⟨-, hcolon, haction, -⟩ := place_of_splitAction? hsplit
        exact absurd (isSeparator_iff.mpr ⟨hcolon, _, haction⟩) (hnone _)
  · rw [ofPlain, if_neg (mt List.isPrefixOf_iff_prefix.mp htitle),
      if_neg (mt List.isPrefixOf_iff_prefix.mp hkey)]

/-- At the first separator the words of a key line are divided. -/
theorem exists_ofPlain_of_separator (hspaced : IsSpaced text) {place : Nat}
    (hseparator : IsSeparator text place)
    (hfirst : ∀ earlier < place, ¬ IsSeparator text earlier) :
    ∃ action, ofPlain text = .key (((text.take place).drop 4).filter (· != ' ')) action ∧
      ((text.take place).drop 4).filter (· != ' ') ≠ [] ∧
      IsActionToken (behind text place) action.token := by
  obtain ⟨rest, rfl⟩ := hseparator.key
  obtain ⟨n, rfl⟩ := Nat.exists_eq_add_of_le' hseparator.le_place
  cases rest with
  | nil => exact nomatch hseparator.colon
  | cons c more =>
    obtain ⟨hcolon, found, hfound⟩ := isSeparator_iff.mp hseparator
    cases hsplit : splitAction? more with
    | none => exact nomatch (action?_of_splitAction? hsplit hcolon).symm.trans hfound
    | some parts =>
      obtain ⟨before, action⟩ := parts
      obtain ⟨htake, hat, haction, hearlier⟩ := place_of_splitAction? hsplit
      obtain rfl : before.length = n := by
        rcases Nat.lt_trichotomy before.length n with hlt | heq | hgt
        · exact absurd (isSeparator_iff.mpr ⟨hat, _, haction⟩) (hfirst _ (by omega))
        · exact heq
        · exact nomatch (hearlier n hgt hcolon).symm.trans hfound
      have hdescriptor : ((keyWord ++ c :: more).take (before.length + 5)).drop 4 = c :: before := by
        have hcut : ((keyWord ++ c :: more).take (before.length + 5)).drop 4 =
            c :: more.take before.length := rfl
        rw [hcut, ← htake]
      have hspace : c ≠ ' ' := by
        have hsuffix : ' ' :: c :: more <:+ keyWord ++ c :: more := ⟨"key".toList, rfl⟩
        exact fun heq ↦ (hspaced.of_suffix hsuffix).head?_dropSpace (congrArg some heq)
      refine ⟨action, ?_, ?_, isActionToken_of_action? haction⟩
      · rw [ofPlain_keyWord, hsplit, hdescriptor]
      · rw [hdescriptor]
        exact List.ne_nil_of_mem
          (List.mem_filter.mpr ⟨List.mem_cons_self, bne_iff_ne.mpr hspace⟩)

/-- The words of a line that are no title make a key line just when there is a separator. The first
one stands behind the descriptor, which is not empty, and in front of the action. -/
theorem read_separator {line : Text} (hne : Text.plain (dropComment line) ≠ [])
    (htitle : ¬ titleWord <+: Text.plain (dropComment line)) :
    read line = matched (Text.plain (dropComment line)) ∧
      ((∀ place, ¬ IsSeparator (Text.plain (dropComment line)) place) →
        (read line).tokens = [] ∧
          (read line).notes = [.unreadableLine (Text.plain (dropComment line))]) ∧
      ∀ place, IsSeparator (Text.plain (dropComment line)) place →
        (∀ earlier < place, ¬ IsSeparator (Text.plain (dropComment line)) earlier) →
        ∃ descriptor last,
          (read line).tokens = [⟨.keyKeyword, []⟩, ⟨.keySequence, descriptor⟩, last] ∧
            (read line).notes = [] ∧
            descriptor =
              (((Text.plain (dropComment line)).take place).drop 4).filter (· != ' ') ∧
            descriptor ≠ [] ∧
            IsActionToken (behind (Text.plain (dropComment line)) place) last := by
  have hread : read line = ofPlain (Text.plain (dropComment line)) := by
    refine read_of_words fun hwords ↦ hne ?_
    rw [Text.plain, hwords]
    rfl
  have hmatched := ofPlain_eq_matched htitle
  have hspaced := isSpaced_plain (dropComment line)
  rw [hread]
  refine ⟨hmatched, ?_⟩
  generalize Text.plain (dropComment line) = text at *
  refine ⟨fun hnone ↦ ?_, fun place hseparator hfirst ↦ ?_⟩
  · rw [ofPlain_of_no_separator htitle hnone]
    exact ⟨rfl, rfl⟩
  · obtain ⟨action, hkey, hdescriptor, haction⟩ :=
      exists_ofPlain_of_separator hspaced hseparator hfirst
    rw [hkey]
    exact ⟨_, action.token, rfl, rfl, rfl, hdescriptor, haction⟩

/-- A colon that is the key, and colons and quotes in the text to send. -/
theorem read_separator_colons :
    ∃ last,
      (read "key  : : \"a:\"b\"  c # d\n".toList).tokens =
          [⟨.keyKeyword, []⟩, ⟨.keySequence, ":".toList⟩, last] ∧
        IsActionToken "\"a:\"b\" c".toList last := by
  have hplain : Text.plain (dropComment "key  : : \"a:\"b\"  c # d\n".toList) =
      "key : : \"a:\"b\" c".toList := by
    decide +kernel
  have hread := @read_separator "key  : : \"a:\"b\"  c # d\n".toList (by rw [hplain]; decide)
    (by rw [hplain]; decide)
  rw [hplain] at hread
  have hseparator : IsSeparator "key : : \"a:\"b\" c".toList 6 :=
    ⟨by decide, by decide, by decide, Or.inr ⟨by decide, by decide⟩⟩
  have hfirst : ∀ earlier < 6, ¬ IsSeparator "key : : \"a:\"b\" c".toList earlier := by
    intro earlier hlt h
    have hle := h.le_place
    obtain rfl : earlier = 5 := by omega
    exact absurd h.colon (by decide)
  obtain ⟨descriptor, last, htokens, -, hdescriptor, -, haction⟩ := hread.2.2 6 hseparator hfirst
  rw [hdescriptor] at htokens
  exact ⟨last, htokens, haction⟩

end TermKeys.Line
