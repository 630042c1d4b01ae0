import Mathlib.Data.List.Infix
import Mathlib.Tactic.SplitIfs
import TermKeys.Text.Words

/-!
What bringing the words of a text one space apart does to it. A text with no blank at its two ends
keeps all it has but the blanks inside, of which every run becomes one space. `spaced` says this
of a piece of text on its own, its ends included, and `plain_cons_append` that a piece between two
characters that are not blank becomes just that.
-/

set_option autoImplicit false

namespace TermKeys.Text

open Unicode

/-! ### Words -/

theorem words_cons_blank {c : Char} (hc : isBlank c = true) (text : Text) :
    words (c :: text) = words text := by
  simpa [words, headAndWords] using words_append_blank hc [] text

/-- The words of a text are what is left of it without its blanks. -/
theorem flatten_words (text : Text) : (words text).flatten = text.filter fun c ↦ !isBlank c := by
  have hhead : (headAndWords text).1 ++ (headAndWords text).2.flatten =
      text.filter fun c ↦ !isBlank c := by
    induction text with
    | nil => rfl
    | cons c rest ih =>
      rw [headAndWords]
      cases hc : isBlank c with
      | true => cases hw : (headAndWords rest).1 <;> simp_all
      | false => simp [hc, ← ih]
  rw [← hhead, words]
  obtain ⟨head, others⟩ := headAndWords text
  cases head <;> simp

theorem words_ne_nil {text : Text} {c : Char} (hc : c ∈ text) (hblank : isBlank c = false) :
    words text ≠ [] := by
  intro hnil
  have hflat := flatten_words text
  rw [hnil, List.flatten_nil, eq_comm, List.filter_eq_nil_iff] at hflat
  exact hflat c hc (by simp [hblank])

/-! ### One space between words -/

theorem intercalate_append {separator : Text} {first second : List Text} (hfirst : first ≠ [])
    (hsecond : second ≠ []) :
    List.intercalate separator (first ++ second) =
      List.intercalate separator first ++ separator ++ List.intercalate separator second := by
  induction first with
  | nil => exact absurd rfl hfirst
  | cons word rest ih =>
    by_cases hrest : rest = []
    · subst hrest
      simp [List.intercalate_cons_of_ne_nil hsecond]
    · rw [List.cons_append, List.intercalate_cons_of_ne_nil (by simp [hrest]), ih hrest,
        List.intercalate_cons_of_ne_nil hrest]
      simp

/-- A blank between two texts with words becomes one space. -/
theorem plain_append_blank {first second : Text} {c : Char} (hc : isBlank c = true)
    (hfirst : words first ≠ []) (hsecond : words second ≠ []) :
    plain (first ++ c :: second) = plain first ++ ' ' :: plain second := by
  rw [plain, words_append_blank hc, intercalate_append hfirst hsecond]
  simp [plain]

theorem plain_cons_blank {c : Char} (hc : isBlank c = true) (text : Text) :
    plain (c :: text) = plain text := by
  rw [plain, words_cons_blank hc, plain]

theorem plain_append_of_blank {front : Text} (h : ∀ c ∈ front, isBlank c = true) (rest : Text) :
    plain (front ++ rest) = plain rest := by
  induction front with
  | nil => rfl
  | cons c more ih =>
    rw [List.cons_append, plain_cons_blank (h c List.mem_cons_self),
      ih fun d hd ↦ h d (List.mem_cons_of_mem _ hd)]

/-- Two characters that are not blank stay neighbours. -/
theorem plain_cons_cons {c d : Char} (hc : isBlank c = false) (hd : isBlank d = false)
    (text : Text) : plain (c :: d :: text) = c :: plain (d :: text) := by
  have hwords : ∃ head words, headAndWords (d :: text) = (d :: head, words) :=
    ⟨_, _, by rw [headAndWords, hd]; rfl⟩
  obtain ⟨head, others, h⟩ := hwords
  rw [plain, plain, words, words, headAndWords, h, hc]
  cases others <;> simp [List.intercalate_cons_cons]

theorem plain_singleton {c : Char} (hc : isBlank c = false) : plain [c] = [c] := by
  simp [plain, words, headAndWords, hc]

/-- The characters of a plain text are spaces and characters of the text that are not blank. -/
theorem mem_plain {text : Text} {c : Char} (h : c ∈ plain text) :
    c = ' ' ∨ c ∈ text ∧ isBlank c = false := by
  have hwords : ∀ row : List Text, c ∈ List.intercalate [' '] row → c = ' ' ∨ c ∈ row.flatten := by
    intro row
    induction row with
    | nil => simp
    | cons word rest ih =>
      cases rest with
      | nil => simpa using Or.inr
      | cons other rest =>
        rw [List.intercalate_cons_cons]
        simp only [List.mem_append, List.mem_singleton, List.flatten_cons] at ih ⊢
        rintro ((hword | rfl) | hrest)
        · exact Or.inr (Or.inl hword)
        · exact Or.inl rfl
        · exact (ih hrest).imp id Or.inr
  rcases hwords _ h with hspace | hflat
  · exact Or.inl hspace
  · rw [flatten_words, List.mem_filter] at hflat
    exact Or.inr ⟨hflat.1, by simpa using hflat.2⟩

/-- Without its spaces a plain text is the text without its blanks. -/
theorem filter_plain (text : Text) :
    (plain text).filter (· != ' ') = text.filter fun c ↦ !isBlank c := by
  have hwords : ∀ row : List Text, (∀ word ∈ row, ∀ c ∈ word, isBlank c = false) →
      (List.intercalate [' '] row).filter (· != ' ') = row.flatten := by
    intro row hrow
    have hkept : ∀ word ∈ row, word.filter (· != ' ') = word := fun word hword ↦
      List.filter_eq_self.mpr fun c hc ↦ by
        rw [bne_iff_ne]
        rintro rfl
        exact absurd (hrow word hword _ hc) (by decide)
    clear hrow
    induction row with
    | nil => rfl
    | cons word rest ih =>
      have hword := hkept word List.mem_cons_self
      have hrest := ih fun other hother ↦ hkept other (List.mem_cons_of_mem _ hother)
      cases rest with
      | nil => simpa using hword
      | cons other rest =>
        rw [List.intercalate_cons_cons, List.filter_append, List.filter_append, hword, hrest]
        simp
  rw [← flatten_words, ← hwords _ fun word hword ↦ (mem_words hword).2, plain]

/-- A character that is not blank is as often in a text as in its plain form. -/
theorem count_plain {c : Char} (hc : isBlank c = false) (text : Text) :
    (plain text).count c = text.count c := by
  have hspace : (c != ' ') = true := by
    rw [bne_iff_ne]
    rintro rfl
    exact absurd hc (by decide)
  have hcount := congrArg (List.count c) (filter_plain text)
  rwa [List.count_filter (p := (· != ' ')) hspace, List.count_filter (by simp [hc])] at hcount

theorem mem_plain_iff {c : Char} (hc : isBlank c = false) {text : Text} :
    c ∈ plain text ↔ c ∈ text := by
  rw [← List.count_pos_iff, count_plain hc, List.count_pos_iff]

/-- A plain text begins as the text does, if that does not begin with a blank. -/
theorem exists_plain_cons {c : Char} (hc : isBlank c = false) (text : Text) :
    ∃ rest, plain (c :: text) = c :: rest := by
  have hwords : words (c :: text) = (c :: (headAndWords text).1) :: (headAndWords text).2 := by
    simp [words, headAndWords, hc]
  rw [plain, hwords]
  cases (headAndWords text).2 with
  | nil => exact ⟨_, rfl⟩
  | cons word others => exact ⟨_, rfl⟩

/-! ### Runs of blanks -/

section Spaced

variable {α β : Type}

/-- A list in which every run of blanks is one space, given whether a blank stands before it. -/
def spacedFrom (blank : α → Bool) (space : α) : Bool → List α → List α
  | _, [] => []
  | afterBlank, a :: rest =>
    if blank a then
      if afterBlank then spacedFrom blank space true rest
      else space :: spacedFrom blank space true rest
    else a :: spacedFrom blank space false rest

/-- Where only spaces are blank, spacing leaves out some of them. -/
theorem spacedFrom_sublist [DecidableEq α] (space : α) (afterBlank : Bool) (list : List α) :
    (spacedFrom (· == space) space afterBlank list).Sublist list := by
  induction list generalizing afterBlank with
  | nil => exact List.Sublist.slnil
  | cons a rest ih =>
    rw [spacedFrom]
    split_ifs with hblank hafter
    · exact (ih true).cons a
    · rw [beq_iff_eq.mp hblank]
      exact (ih true).cons_cons space
    · exact (ih false).cons_cons a

/-- Where only spaces are blank, a list stays as it is just when no two of them are neighbours, the
one before the list included. -/
theorem spacedFrom_eq_self_iff [DecidableEq α] {space : α} {afterBlank : Bool} {list : List α} :
    spacedFrom (· == space) space afterBlank list = list ↔
      (afterBlank = true → list.head? ≠ some space) ∧
        ∀ after, ¬ space :: space :: after <:+ list := by
  induction list generalizing afterBlank with
  | nil => simp [spacedFrom]
  | cons a rest ih =>
    have hlonger : ∀ b, spacedFrom (· == space) space b rest ≠ a :: rest := fun b heq ↦ by
      have hlength := (spacedFrom_sublist space b rest).length_le
      rw [heq, List.length_cons] at hlength
      omega
    have hpair : (∀ after, ¬ space :: space :: after <:+ a :: rest) ↔
        (a = space → rest.head? ≠ some space) ∧ ∀ after, ¬ space :: space :: after <:+ rest := by
      simp only [List.suffix_cons_iff, not_or, forall_and, List.cons.injEq, not_and]
      refine and_congr_left fun _ ↦ ⟨fun h ha hhead ↦ ?_, fun h after ha hrest ↦ ?_⟩
      · obtain ⟨more, rfl⟩ := List.head?_eq_some_iff.mp hhead
        exact h more ha.symm rfl
      · exact h ha.symm (by rw [← hrest]; rfl)
    rw [hpair, spacedFrom]
    by_cases ha : a = space
    · subst ha
      cases afterBlank <;> simp [ih, hlonger]
    · simp [ha, ih]

/-- Spacing goes through a way of writing that gives a space for a blank and for anything else
something without blanks. -/
theorem spacedFrom_flatMap {blank : α → Bool} {space : α} {blankOut : β → Bool} {spaceOut : β}
    {write : α → List β} (hspace : write space = [spaceOut])
    (hblank : ∀ a, blank a = true → ∃ b, write a = [b] ∧ blankOut b = true)
    (hother : ∀ a, blank a = false → write a ≠ [] ∧ ∀ b ∈ write a, blankOut b = false)
    (afterBlank : Bool) (list : List α) :
    spacedFrom blankOut spaceOut afterBlank (list.flatMap write) =
      (spacedFrom blank space afterBlank list).flatMap write := by
  have hpass : ∀ (front rest : List β) (after : Bool), front ≠ [] →
      (∀ b ∈ front, blankOut b = false) →
      spacedFrom blankOut spaceOut after (front ++ rest) =
        front ++ spacedFrom blankOut spaceOut false rest := by
    intro front rest after hne hfront
    induction front generalizing after with
    | nil => exact absurd rfl hne
    | cons b more ih =>
      rw [List.cons_append, spacedFrom, if_neg (by simp [hfront b List.mem_cons_self])]
      rcases more with - | ⟨c, more⟩
      · rfl
      · rw [ih false (List.cons_ne_nil _ _) fun d hd ↦ hfront d (List.mem_cons_of_mem _ hd)]
        rfl
  induction list generalizing afterBlank with
  | nil => rfl
  | cons a rest ih =>
    rw [List.flatMap_cons, spacedFrom]
    cases ha : blank a with
    | true =>
      obtain ⟨b, hwrite, hb⟩ := hblank a ha
      rw [hwrite, List.singleton_append, spacedFrom, if_pos hb, ih true]
      cases afterBlank <;> simp [hspace]
    | false =>
      obtain ⟨hne, hfree⟩ := hother a ha
      rw [hpass _ _ _ hne hfree, ih false]
      simp

end Spaced

/-- A text in which every run of blanks, at its ends too, is one space. -/
def spaced (text : Text) : Text := spacedFrom isBlank ' ' false text

/-- Between two characters that are not blank, every run of blanks becomes one space. -/
theorem plain_cons_append {first last : Char} (hfirst : isBlank first = false)
    (hlast : isBlank last = false) (body tail : Text) :
    plain (first :: body ++ last :: tail) = first :: spaced body ++ plain (last :: tail) := by
  suffices h : plain (first :: body ++ last :: tail) =
        first :: spacedFrom isBlank ' ' false body ++ plain (last :: tail) ∧
      plain (body ++ last :: tail) =
        spacedFrom isBlank ' ' true body ++ plain (last :: tail) from h.1
  induction body generalizing first with
  | nil => exact ⟨plain_cons_cons hfirst hlast tail, rfl⟩
  | cons c rest ih =>
    cases hc : isBlank c with
    | true =>
      have hrest := (ih hfirst).2
      have hwords : words (rest ++ last :: tail) ≠ [] :=
        words_ne_nil (List.mem_append_right _ List.mem_cons_self) hlast
      have hone : words [first] ≠ [] := words_ne_nil List.mem_cons_self hfirst
      constructor
      · have hsplit := plain_append_blank hc hone hwords
        rw [plain_singleton hfirst, hrest] at hsplit
        simpa [spacedFrom, hc] using hsplit
      · rw [List.cons_append, plain_cons_blank hc, hrest]
        simp [spacedFrom, hc]
    | false =>
      have hrest := (ih hc).1
      constructor
      · rw [List.cons_append, List.cons_append, plain_cons_cons hfirst hc, ← List.cons_append,
          hrest]
        simp [spacedFrom, hc]
      · rw [hrest]
        simp [spacedFrom, hc]

/-! ### Neighbours -/

/-- No two spaces are neighbours in a plain text. -/
theorem not_spaces_infix_plain (text : Text) : ¬ [' ', ' '] <:+: plain text := by
  have hpass : ∀ word rest : Text, (∀ c ∈ word, isBlank c = false) → ¬ [' ', ' '] <:+: rest →
      ¬ [' ', ' '] <:+: word ++ rest := by
    intro word rest hword hrest
    induction word with
    | nil => exact hrest
    | cons c more ih =>
      rw [List.cons_append, List.infix_cons_iff, List.cons_prefix_cons, not_or]
      refine ⟨?_, ih fun d hd ↦ hword d (List.mem_cons_of_mem _ hd)⟩
      rintro ⟨rfl, -⟩
      exact absurd (hword ' ' List.mem_cons_self) (by decide)
  have hrow : ∀ row : List Text, (∀ word ∈ row, word ≠ [] ∧ ∀ c ∈ word, isBlank c = false) →
      ¬ [' ', ' '] <:+: List.intercalate [' '] row := by
    intro row h
    induction row with
    | nil => decide
    | cons word others ih =>
      have hword := (h word List.mem_cons_self).2
      have hothers := ih fun other hother ↦ h other (List.mem_cons_of_mem _ hother)
      cases others with
      | nil => simpa using hpass word [] hword (by decide)
      | cons other more =>
        obtain ⟨hne, hfree⟩ := h other (by simp)
        obtain ⟨d, letters, rfl⟩ := List.exists_cons_of_ne_nil hne
        obtain ⟨rest, hrest⟩ :
            ∃ rest, List.intercalate [' '] ((d :: letters) :: more) = d :: rest := by
          cases more <;> exact ⟨_, rfl⟩
        rw [List.intercalate_cons_cons, List.append_assoc]
        refine hpass word _ hword ?_
        rw [List.singleton_append, List.infix_cons_iff, List.cons_prefix_cons, not_or]
        refine ⟨fun hspaces ↦ ?_, hothers⟩
        rw [hrest, List.cons_prefix_cons] at hspaces
        have hblank := hfree d List.mem_cons_self
        rw [← hspaces.2.1] at hblank
        exact absurd hblank (by decide)
  exact hrow (words text) fun word hword ↦ mem_words hword

/-- Two neighbours that are not blank stay so wherever they stand. -/
theorem plain_append_cons {c d : Char} (hc : isBlank c = false) (hd : isBlank d = false)
    (front rest : Text) :
    plain (front ++ c :: d :: rest) = plain (front ++ [c]) ++ plain (d :: rest) := by
  induction front with
  | nil => rw [List.nil_append, List.nil_append, plain_cons_cons hc hd, plain_singleton hc]; rfl
  | cons e more ih =>
    cases he : isBlank e with
    | true => rw [List.cons_append, List.cons_append, plain_cons_blank he, plain_cons_blank he, ih]
    | false =>
      rw [plain_cons_append he hc more (d :: rest), plain_cons_append he hc more [],
        plain_cons_cons hc hd, plain_singleton hc, List.append_assoc]
      rfl

/-- A text goes on in its plain form where something that is not blank follows it, after at most one
space. -/
theorem exists_plain_append {d : Char} (hd : isBlank d = false) (front rest : Text) :
    ∃ gap, (gap = [] ∨ gap = [' ']) ∧
      plain (front ++ d :: rest) = plain front ++ (gap ++ plain (d :: rest)) := by
  rcases List.eq_nil_or_concat' front with rfl | ⟨init, c, rfl⟩
  · exact ⟨[], Or.inl rfl, rfl⟩
  rw [List.append_assoc, List.singleton_append]
  cases hc : isBlank c with
  | true =>
    have hfront : plain (init ++ [c]) = plain init := by
      rw [plain, words_append_blank hc, plain]
      exact congrArg _ (List.append_nil (words init))
    by_cases hinit : words init = []
    · have hnil : plain init = [] := congrArg (List.intercalate [' ']) hinit
      refine ⟨[], Or.inl rfl, ?_⟩
      rw [hfront, hnil, plain, words_append_blank hc, hinit]
      rfl
    · have hrest : words (d :: rest) ≠ [] := words_ne_nil List.mem_cons_self hd
      exact ⟨[' '], Or.inr rfl, by rw [hfront, plain_append_blank hc hinit hrest]; rfl⟩
  | false => exact ⟨[], Or.inl rfl, plain_append_cons hc hd init rest⟩

/-! ### Beginnings -/

/-- A blank behind the first character of a text becomes one space or ends its plain form. -/
theorem plain_cons_blank_cases {c d : Char} (hc : isBlank c = false) (hd : isBlank d = true)
    (rest : Text) :
    plain (c :: d :: rest) = [c] ∨ plain (c :: d :: rest) = c :: ' ' :: plain rest := by
  have hone : words [c] ≠ [] := words_ne_nil List.mem_cons_self hc
  rw [← List.singleton_append]
  by_cases hrest : words rest = []
  · left
    rw [plain, words_append_blank hd, hrest, List.append_nil, ← plain, plain_singleton hc]
  · right
    rw [plain_append_blank hd hone hrest, plain_singleton hc]
    rfl

theorem prefix_of_prefix_plain_cons {c : Char} (hc : isBlank c = false) {word rest : Text}
    (hword : ' ' ∉ word) (h : word <+: plain (c :: rest)) : word <+: c :: rest := by
  induction rest generalizing c word with
  | nil => rwa [plain_singleton hc] at h
  | cons d more ih =>
    cases word with
    | nil => exact List.nil_prefix
    | cons first letters =>
      rw [List.mem_cons, not_or] at hword
      cases hd : isBlank d with
      | false =>
        rw [plain_cons_cons hc hd, List.cons_prefix_cons] at h
        exact List.cons_prefix_cons.mpr ⟨h.1, ih hd hword.2 h.2⟩
      | true =>
        rcases plain_cons_blank_cases hc hd more with hplain | hplain
        · rw [hplain] at h
          exact h.trans (List.prefix_append [c] _)
        · rw [hplain, List.cons_prefix_cons] at h
          cases letters with
          | nil => exact List.cons_prefix_cons.mpr ⟨h.1, List.nil_prefix⟩
          | cons second _ =>
            obtain rfl := (List.cons_prefix_cons.mp h.2).1
            exact absurd List.mem_cons_self hword.2

/-- A word in front of a plain text is in front of the text behind its first blanks. -/
theorem prefix_dropWhile_of_prefix_plain {word text : Text} (hword : ' ' ∉ word)
    (h : word <+: plain text) : word <+: text.dropWhile isBlank := by
  induction text with
  | nil => exact h
  | cons c rest ih =>
    cases hc : isBlank c with
    | true =>
      rw [plain_cons_blank hc] at h
      rw [List.dropWhile_cons_of_pos hc]
      exact ih h
    | false =>
      rw [List.dropWhile_cons_of_neg (by simp [hc])]
      exact prefix_of_prefix_plain_cons hc hword h

end TermKeys.Text
