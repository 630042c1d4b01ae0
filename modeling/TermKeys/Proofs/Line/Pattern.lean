import TermKeys.Proofs.Line

/-!
Key lines as a pattern takes them apart. A pattern may go through a text in several ways, which are
tried in order (`Pattern.ways`), and the first of them is the match. The pattern of key lines has
spaces, a descriptor as short as can be, a colon and an action, each of which may give back what it
took, and nothing holds it at the end. On words one space apart it finds just what reading finds
(`ofPlain_eq_matched`).
-/

set_option autoImplicit false

namespace TermKeys

open Unicode

/-! ### Patterns -/

/-- A pattern for the front of a text. -/
inductive Pattern
  | word (text : Text)
  /-- A run of characters of a kind, so many at least, longest first or shortest first. -/
  | run (longest : Bool) (least : Nat) (kind : Char → Bool)
  | seq (first second : Pattern)
  /-- The first, or else the second. -/
  | alt (first second : Pattern)
  /-- The body, with what it takes kept under a number. -/
  | group (number : Nat) (body : Pattern)

namespace Pattern

/-- A way of a pattern through a text. -/
structure Way where
  taken : Text
  rest : Text
  groups : List (Nat × Text)

/-- The runs of a kind at the front of a text, shortest first, each with what is behind it. -/
def splits (kind : Char → Bool) : Text → List (Text × Text)
  | [] => [([], [])]
  | c :: rest =>
    ([], c :: rest) ::
      if kind c then (splits kind rest).map fun parts ↦ (c :: parts.1, parts.2) else []

/-- The ways of a pattern through a text, in the order in which they are tried. -/
def ways : Pattern → Text → List Way
  | word expected, text =>
    if expected.isPrefixOf text then [⟨expected, text.drop expected.length, []⟩] else []
  | run longest least kind, text =>
    let runs := (splits kind text).filter fun parts ↦ least ≤ parts.1.length
    (if longest then runs.reverse else runs).map fun parts ↦ ⟨parts.1, parts.2, []⟩
  | seq first second, text =>
    (ways first text).flatMap fun front ↦ (ways second front.rest).map fun back ↦
      ⟨front.taken ++ back.taken, back.rest, front.groups ++ back.groups⟩
  | alt first second, text => ways first text ++ ways second text
  | group number body, text =>
    (ways body text).map fun way ↦ { way with groups := (number, way.taken) :: way.groups }

/-- The match of a pattern at the front of a text. -/
def first (pattern : Pattern) (text : Text) : Option Way := (ways pattern text).head?

/-- What the match keeps under its numbers. -/
def captures (pattern : Pattern) (text : Text) : Option (List (Nat × Text)) :=
  (first pattern text).map Way.groups

/-! ### The pattern of key lines -/

/-- Anything but the character that ends a line. -/
def inLine (c : Char) : Bool := c != '\n'

/-- A text between quotes, as long as can be. -/
def quoted : Pattern :=
  .seq (.word ['"']) (.seq (.group 3 (.run true 0 inLine)) (.word ['"']))

def action : Pattern := .group 2 (.alt quoted (.run true 1 isWordChar))

/-- What stands behind a descriptor. -/
def tail : Pattern :=
  .seq (.run true 0 isBlank) (.seq (.word [':']) (.seq (.run true 0 isBlank) action))

def keyLine : Pattern :=
  .seq (.word "key".toList)
    (.seq (.run true 1 isBlank) (.seq (.group 1 (.run false 1 inLine)) tail))

/-- The action of a match: to send what is kept under the last number if anything is. -/
def actionOf (groups : List (Nat × Text)) : Action :=
  match groups.lookup 3 with
  | some sent => .send sent
  | none => .command ((groups.lookup 2).getD [])

/-! ### The first way -/

variable {text rest : Text} {kind : Char → Bool} {c : Char}

theorem first_word (expected text : Text) :
    first (.word expected) text =
      if expected.isPrefixOf text then some ⟨expected, text.drop expected.length, []⟩ else none := by
  rw [first, ways]
  split <;> rfl

theorem first_seq (front back : Pattern) (text : Text) :
    first (.seq front back) text =
      (ways front text).findSome? fun way ↦ (first back way.rest).map fun other ↦
        ⟨way.taken ++ other.taken, other.rest, way.groups ++ other.groups⟩ := by
  simp only [first, ways, List.head?_flatMap, List.head?_map]

theorem first_alt (one other : Pattern) (text : Text) :
    first (.alt one other) text = (first one text).or (first other text) := by
  rw [first, ways, List.head?_append]
  rfl

theorem first_group (number : Nat) (body : Pattern) (text : Text) :
    first (.group number body) text =
      (first body text).map fun way ↦
        { way with groups := (number, way.taken) :: way.groups } := by
  rw [first, ways, List.head?_map]
  rfl

theorem captures_seq (front back : Pattern) (text : Text) :
    captures (.seq front back) text =
      (ways front text).findSome? fun way ↦ (captures back way.rest).map (way.groups ++ ·) := by
  rw [captures, first_seq, List.map_findSome?]
  simp only [Function.comp_def, Option.map_map, captures]

theorem first_word_seq (expected : Text) (back : Pattern) (text : Text) :
    first (.seq (.word expected) back) (expected ++ text) =
      (first back text).map fun other ↦ ⟨expected ++ other.taken, other.rest, other.groups⟩ := by
  have hprefix : expected.isPrefixOf (expected ++ text) = true :=
    List.isPrefixOf_iff_prefix.mpr (List.prefix_append _ _)
  rw [first_seq, ways, if_pos hprefix, List.drop_left, List.findSome?_singleton]
  rfl

theorem first_word_seq_of_not {expected text : Text} (h : ¬ expected <+: text) (back : Pattern) :
    first (.seq (.word expected) back) text = none := by
  have hprefix : expected.isPrefixOf text = false := by
    rwa [← Bool.not_eq_true, List.isPrefixOf_iff_prefix]
  rw [first_seq, ways, hprefix]
  rfl

theorem captures_word_seq (expected : Text) (back : Pattern) (text : Text) :
    captures (.seq (.word expected) back) (expected ++ text) = captures back text := by
  rw [captures, first_word_seq, Option.map_map]
  rfl

theorem captures_word_seq_of_not {expected text : Text} (h : ¬ expected <+: text) (back : Pattern) :
    captures (.seq (.word expected) back) text = none := by
  rw [captures, first_word_seq_of_not h]
  rfl

/-! ### Runs -/

theorem splits_of_neg (hc : kind c = false) (rest : Text) :
    splits kind (c :: rest) = [([], c :: rest)] := by
  rw [splits, if_neg (by simp [hc])]

theorem splits_of_pos (hc : kind c = true) (rest : Text) :
    splits kind (c :: rest) =
      ([], c :: rest) :: (splits kind rest).map fun parts ↦ (c :: parts.1, parts.2) := by
  rw [splits, if_pos hc]

/-- The longest run is tried first. -/
theorem head?_reverse_splits (kind : Char → Bool) (text : Text) :
    (splits kind text).reverse.head? = some (text.takeWhile kind, text.dropWhile kind) := by
  rw [List.head?_reverse]
  induction text with
  | nil => rfl
  | cons c rest ih =>
    cases hc : kind c with
    | false =>
      rw [splits_of_neg hc, List.takeWhile_cons_of_neg (by simp [hc]),
        List.dropWhile_cons_of_neg (by simp [hc])]
      rfl
    | true =>
      rw [splits_of_pos hc, List.takeWhile_cons_of_pos hc, List.dropWhile_cons_of_pos hc,
        List.getLast?_cons, List.getLast?_map, ih]
      rfl

section

variable {α : Type} (next : Text × Text → Option α)

theorem findSome?_splits_of_pos (hc : kind c = true) (rest : Text) :
    (splits kind (c :: rest)).findSome? next =
      (next ([], c :: rest)).or
        ((splits kind rest).findSome? fun parts ↦ next (c :: parts.1, parts.2)) := by
  rw [splits_of_pos hc, List.findSome?_cons, List.findSome?_map]
  cases next ([], c :: rest) <;> rfl

theorem findSome?_reverse_splits_of_pos (hc : kind c = true) (rest : Text) :
    (splits kind (c :: rest)).reverse.findSome? next =
      ((splits kind rest).reverse.findSome? fun parts ↦ next (c :: parts.1, parts.2)).or
        (next ([], c :: rest)) := by
  rw [splits_of_pos hc, List.reverse_cons, List.findSome?_append, ← List.map_reverse,
    List.findSome?_map, List.findSome?_singleton]
  rfl

end

/-- A run that is as long as can be in front of a character ends at the last one. -/
theorem findSome?_reverse_splits_word {α : Type} (h : ∀ d ∈ text, kind d = true) (c : Char)
    (make : Text × Text → α) :
    ((splits kind text).reverse.findSome? fun parts ↦
        if [c].isPrefixOf parts.2 then some (make (parts.1, parts.2.drop 1)) else none) =
      (Text.splitLast? c text).map make := by
  induction text generalizing make with
  | nil => rfl
  | cons d rest ih =>
    obtain ⟨hd, hrest⟩ := List.forall_mem_cons.mp h
    rw [findSome?_reverse_splits_of_pos _ hd, ih hrest fun parts ↦ make (d :: parts.1, parts.2),
      Text.splitLast?]
    cases Text.splitLast? c rest with
    | some parts => rfl
    | none =>
      by_cases hdc : d = c
      · simp [hdc]
      · simp [hdc, Ne.symm hdc]

/-! ### The parts of a key line -/

theorem ways_longest (kind : Char → Bool) (text : Text) :
    ways (.run true 0 kind) text =
      (splits kind text).reverse.map fun parts ↦ ⟨parts.1, parts.2, []⟩ := by
  simp [ways]

theorem first_quoted (hline : '\n' ∉ text) :
    first quoted ('"' :: text) =
      (Text.splitLast? '"' text).map fun parts ↦
        ⟨'"' :: (parts.1 ++ ['"']), parts.2, [(3, parts.1)]⟩ := by
  have hkind : ∀ d ∈ text, inLine d = true := fun d hd ↦
    bne_iff_ne.mpr fun heq ↦ hline (heq ▸ hd)
  have hclose : ∀ parts : Text × Text,
      ((first (.word ['"']) parts.2).map fun other ↦
        (⟨parts.1 ++ other.taken, other.rest, [(3, parts.1)] ++ other.groups⟩ : Way)) =
      if ['"'].isPrefixOf parts.2 then some ⟨parts.1 ++ ['"'], parts.2.drop 1, [(3, parts.1)]⟩
      else none := by
    intro parts
    rw [first_word]
    split <;> rfl
  have hsplit := findSome?_reverse_splits_word hkind '"' fun parts ↦
    (⟨parts.1 ++ ['"'], parts.2, [(3, parts.1)]⟩ : Way)
  rw [quoted]
  refine (first_word_seq ['"'] _ text).trans ?_
  rw [first_seq, ways, ways_longest, List.findSome?_map, List.findSome?_map]
  simp only [Function.comp_def, hclose]
  rw [hsplit, Option.map_map]
  rfl

theorem first_quoted_of_ne (hc : c ≠ '"') (rest : Text) : first quoted (c :: rest) = none :=
  first_word_seq_of_not (by simp [Ne.symm hc]) _

/-- A run of one character at least is the longest one, if the first character is of its kind. -/
theorem first_run_cons (kind : Char → Bool) (c : Char) (rest : Text) :
    first (.run true 1 kind) (c :: rest) =
      if kind c then some ⟨c :: rest.takeWhile kind, rest.dropWhile kind, []⟩ else none := by
  rw [first, ways, if_pos rfl, ← List.filter_reverse]
  cases hc : kind c with
  | false =>
    rw [splits_of_neg hc]
    rfl
  | true =>
    obtain ⟨others, hsplits⟩ := List.head?_eq_some_iff.mp (head?_reverse_splits kind (c :: rest))
    rw [hsplits, List.takeWhile_cons_of_pos hc, List.dropWhile_cons_of_pos hc,
      List.filter_cons_of_pos (by simp)]
    rfl

/-- The action behind a colon is what reading finds, unless a space comes first. -/
theorem captures_action (hline : '\n' ∉ text) :
    (captures action text).map actionOf =
      if text.head? = some ' ' then none else Line.action? text := by
  have hspace : isWordChar ' ' = false := by decide +kernel
  have hquote : isWordChar '"' = false := by decide +kernel
  have hsend (taken sent : Text) : actionOf [(2, taken), (3, sent)] = .send sent := rfl
  have hcommand (taken : Text) : actionOf [(2, taken)] = .command taken := rfl
  rw [captures, action, first_group, first_alt]
  cases text with
  | nil => rfl
  | cons c rest =>
    rw [first_run_cons]
    by_cases hc : c = '"'
    · subst hc
      rw [first_quoted fun hmem ↦ hline (List.mem_cons_of_mem _ hmem), hquote]
      cases hsplit : Text.splitLast? '"' rest <;> simp [Line.action?, hsplit, hsend]
    · rw [first_quoted_of_ne hc, Option.none_or]
      by_cases hblank : c = ' '
      · subst hblank
        rw [hspace]
        rfl
      · cases hword : isWordChar c <;> simp [Line.action?, hc, hblank, hword, hcommand]

/-! ### Single spaces -/

/-- A text whose blanks are spaces that stand alone. -/
structure IsSpaced (text : Text) : Prop where
  eq_space : ∀ c ∈ text, isBlank c = true → c = ' '
  not_infix : ¬ [' ', ' '] <:+: text

theorem isSpaced_plain (text : Text) : IsSpaced (Text.plain text) where
  eq_space c hc hblank := (Text.mem_plain hc).elim id fun h ↦ by
    rw [h.2] at hblank
    exact absurd hblank Bool.false_ne_true
  not_infix := Text.not_spaces_infix_plain text

theorem IsSpaced.of_infix (h : IsSpaced text) (hpart : rest <:+: text) : IsSpaced rest where
  eq_space c hc := h.eq_space c (hpart.subset hc)
  not_infix hspaces := h.not_infix (hspaces.trans hpart)

theorem IsSpaced.of_suffix (h : IsSpaced text) (hsuffix : rest <:+ text) : IsSpaced rest :=
  h.of_infix hsuffix.isInfix

theorem IsSpaced.lineEnd_not_mem (h : IsSpaced text) : '\n' ∉ text := fun hmem ↦
  absurd (h.eq_space _ hmem (by decide)) (by decide)

/-- A text without the space at its front, if there is one. -/
def dropSpace (text : Text) : Text := if text.head? = some ' ' then text.tail else text

/-- No space stands behind a space. -/
theorem IsSpaced.head?_dropSpace (h : IsSpaced text) : (dropSpace text).head? ≠ some ' ' := by
  unfold dropSpace
  split_ifs with hspace
  · obtain ⟨rest, rfl⟩ := List.head?_eq_some_iff.mp hspace
    intro hagain
    obtain ⟨more, rfl⟩ := List.head?_eq_some_iff.mp hagain
    exact h.not_infix (List.prefix_append [' ', ' '] more).isInfix
  · exact hspace

theorem action?_dropSpace (h : IsSpaced text) : Line.action? (dropSpace text) = Line.action? text := by
  rw [Line.action?, if_neg h.head?_dropSpace, Line.action?, dropSpace]

/-- Only one run of blanks is at the front of a text that does not begin with a space. -/
theorem IsSpaced.splits_isBlank (h : IsSpaced text) (hspace : text.head? ≠ some ' ') :
    splits isBlank text = [([], text)] := by
  cases text with
  | nil => rfl
  | cons c rest =>
    have hblank : isBlank c = false := by
      rw [← Bool.not_eq_true]
      intro hc
      exact hspace (by rw [h.eq_space c List.mem_cons_self hc]; rfl)
    exact splits_of_neg hblank rest

theorem captures_blanks_seq {back : Pattern} (h : IsSpaced text)
    (hback : ∀ rest, captures back (' ' :: rest) = none) :
    captures (.seq (.run true 0 isBlank) back) text = captures back (dropSpace text) := by
  rw [captures_seq, ways_longest, List.findSome?_map]
  by_cases hspace : text.head? = some ' '
  · obtain ⟨rest, rfl⟩ := List.head?_eq_some_iff.mp hspace
    have hrest : rest.head? ≠ some ' ' := h.head?_dropSpace
    have hsuffix := h.of_suffix (List.suffix_cons ' ' rest)
    rw [findSome?_reverse_splits_of_pos _ (by decide), hsuffix.splits_isBlank hrest]
    simp [hback, dropSpace]
  · rw [h.splits_isBlank hspace]
    simp [dropSpace, hspace]

theorem dropSpace_suffix (text : Text) : dropSpace text <:+ text := by
  unfold dropSpace
  split_ifs
  · exact List.tail_suffix text
  · exact List.suffix_refl text

theorem captures_action_space (rest : Text) : captures action (' ' :: rest) = none := by
  have hspace : isWordChar ' ' = false := by decide +kernel
  rw [captures, action, first_group, first_alt, first_quoted_of_ne (by decide), first_run_cons,
    hspace]
  rfl

/-- What stands behind a descriptor is a colon with an action, in front of which may be a space. -/
theorem captures_tail (h : IsSpaced text) :
    (captures tail text).map actionOf =
      if (dropSpace text).head? = some ':' then Line.action? (dropSpace text).tail else none := by
  rw [tail, captures_blanks_seq h fun rest ↦ captures_word_seq_of_not (by simp) _]
  split_ifs with hcolon
  · obtain ⟨rest, hrest⟩ := List.head?_eq_some_iff.mp hcolon
    have hbehind : IsSpaced rest :=
      h.of_suffix (((List.suffix_cons ':' rest).trans (hrest ▸ List.suffix_refl _)).trans
        (dropSpace_suffix text))
    have hshort : IsSpaced (dropSpace rest) := hbehind.of_suffix (dropSpace_suffix rest)
    have hword := captures_word_seq [':'] (.seq (.run true 0 isBlank) action) rest
    rw [hrest, List.tail_cons]
    refine (congrArg _ hword).trans ?_
    rw [captures_blanks_seq hbehind captures_action_space, captures_action hshort.lineEnd_not_mem,
      if_neg hbehind.head?_dropSpace, action?_dropSpace hbehind]
  · rw [captures_word_seq_of_not]
    · rfl
    · rintro ⟨more, hmore⟩
      exact hcolon (by rw [← hmore]; rfl)

/-! ### The descriptor -/

theorem splitAction?_cons_of_ne (hc : c ≠ ':') (rest : Text) :
    Line.splitAction? (c :: rest) =
      (Line.splitAction? rest).map fun parts ↦ (c :: parts.1, parts.2) := by
  rw [Line.splitAction?, if_neg hc]

/-- A descriptor as short as can be goes up to the first colon with an action. The space in front of
that colon is left out of it. -/
theorem findSome?_splits_tail (h : IsSpaced text) (front : Text) :
    ((splits inLine text).findSome? fun parts ↦
        ((captures tail parts.2).map actionOf).map fun action ↦
          ((front ++ parts.1).filter (· != ' '), action)) =
      (Line.splitAction? text).map fun parts ↦
        ((front ++ parts.1).filter (· != ' '), parts.2) := by
  induction text generalizing front with
  | nil => rfl
  | cons c rest ih =>
    have hrest : IsSpaced rest := h.of_suffix (List.suffix_cons c rest)
    have hline : inLine c = true :=
      bne_iff_ne.mpr fun heq ↦ h.lineEnd_not_mem (heq ▸ List.mem_cons_self)
    have hlater := ih hrest (front ++ [c])
    simp only [List.append_assoc, List.singleton_append] at hlater
    rw [findSome?_splits_of_pos _ hline, hlater, captures_tail h, List.append_nil]
    clear ih hlater
    by_cases hspace : c = ' '
    · subst hspace
      have hdrop : dropSpace (' ' :: rest) = rest := rfl
      rw [hdrop, splitAction?_cons_of_ne (by decide)]
      by_cases hcolon : rest.head? = some ':'
      · obtain ⟨more, rfl⟩ := List.head?_eq_some_iff.mp hcolon
        rw [if_pos hcolon, List.tail_cons, Line.splitAction?, if_pos rfl]
        cases Line.action? more <;> simp [Function.comp_def]
      · rw [if_neg hcolon]
        simp [Function.comp_def]
    · have hdrop : dropSpace (c :: rest) = c :: rest := by simp [dropSpace, hspace]
      rw [hdrop, List.tail_cons, List.head?_cons]
      by_cases hcolon : c = ':'
      · subst hcolon
        rw [if_pos rfl, Line.splitAction?, if_pos rfl]
        cases Line.action? rest <;> simp [Function.comp_def]
      · rw [if_neg fun heq ↦ hcolon (Option.some.inj heq), splitAction?_cons_of_ne hcolon]
        simp [Function.comp_def]

/-! ### Key lines -/

/-- The line that a match of the pattern makes of a text. -/
def matched (text : Text) : Line :=
  match captures keyLine text with
  | none => .unreadable text
  | some groups =>
    .key (((groups.lookup 1).getD []).filter (· != ' ')) (actionOf groups)

theorem ways_shortest (hc : kind c = true) (rest : Text) :
    ways (.run false 1 kind) (c :: rest) =
      (splits kind rest).map fun parts ↦ ⟨c :: parts.1, parts.2, []⟩ := by
  have hlong : ∀ parts ∈ (splits kind rest).map fun parts ↦ (c :: parts.1, parts.2),
      decide (1 ≤ parts.1.length) = true := by
    intro parts hparts
    obtain ⟨later, -, rfl⟩ := List.mem_map.mp hparts
    simp
  rw [ways, splits_of_pos hc, List.filter_cons_of_neg (by simp), List.filter_eq_self.mpr hlong,
    if_neg Bool.false_ne_true, List.map_map]
  rfl

/-- What is kept of a descriptor and what is behind it are found as reading finds them. -/
theorem captures_descriptor (hc : inLine c = true) (h : IsSpaced rest) :
    (captures (.seq (.group 1 (.run false 1 inLine)) tail) (c :: rest)).map (fun groups ↦
        (((groups.lookup 1).getD []).filter (· != ' '), actionOf groups)) =
      (Line.splitAction? rest).map fun parts ↦ ((c :: parts.1).filter (· != ' '), parts.2) := by
  have hfound := findSome?_splits_tail h [c]
  simp only [List.singleton_append] at hfound
  rw [captures_seq, ways, ways_shortest hc, List.findSome?_map, List.findSome?_map,
    List.map_findSome?, ← hfound]
  refine congrArg (List.findSome? · _) (funext fun parts ↦ ?_)
  simp only [Function.comp_apply, Option.map_map]
  rfl

theorem captures_keyWord (h : IsSpaced (' ' :: text)) :
    captures keyLine (Line.keyWord ++ text) =
      captures (.seq (.group 1 (.run false 1 inLine)) tail) text := by
  have hsplit : Line.keyWord ++ text = "key".toList ++ ' ' :: text := by
    rw [Line.keyWord]
    rfl
  have hspaced := h.of_suffix (List.suffix_cons ' ' text)
  have hspace : text.head? ≠ some ' ' := h.head?_dropSpace
  rw [hsplit, keyLine, captures_word_seq, captures_seq, ways, splits_of_pos (by decide),
    hspaced.splits_isBlank hspace]
  cases h : captures (.seq (.group 1 (.run false 1 inLine)) tail) text <;> simp [h]

/-- Without a blank behind its first letters a text is no key line. -/
theorem captures_keyLine_of_not (h : IsSpaced text) (hkey : ¬ Line.keyWord <+: text) :
    captures keyLine text = none := by
  have hsplit : Line.keyWord = "key".toList ++ [' '] := by decide
  by_cases hfront : "key".toList <+: text
  · obtain ⟨rest, rfl⟩ := hfront
    rw [keyLine, captures_word_seq, captures_seq, ways]
    cases rest with
    | nil => rfl
    | cons c more =>
      have hblank : isBlank c = false := by
        rw [← Bool.not_eq_true]
        intro hc
        have hspace : c = ' ' := h.eq_space c (List.mem_append_right _ List.mem_cons_self) hc
        refine hkey ⟨more, ?_⟩
        rw [hsplit, hspace, List.append_assoc, List.singleton_append]
      rw [splits_of_neg hblank]
      rfl
  · exact captures_word_seq_of_not hfront _

/-- Words one space apart that are no title are read as the pattern of key lines says. -/
theorem ofPlain_eq_matched {line : Text} (htitle : ¬ Line.titleWord <+: Text.plain line) :
    Line.ofPlain (Text.plain line) = matched (Text.plain line) := by
  have hspaced := isSpaced_plain line
  generalize Text.plain line = text at *
  by_cases hkey : Line.keyWord <+: text
  · obtain ⟨rest, rfl⟩ := hkey
    have hsuffix : ' ' :: rest <:+ Line.keyWord ++ rest := ⟨"key".toList, rfl⟩
    have hbehind := hspaced.of_suffix hsuffix
    rw [matched, captures_keyWord hbehind]
    cases rest with
    | nil => rfl
    | cons c more =>
      have hmore : IsSpaced more :=
        hbehind.of_suffix ((List.suffix_cons c more).trans (List.suffix_cons ' ' _))
      have hline : inLine c = true := bne_iff_ne.mpr fun heq ↦
        hbehind.lineEnd_not_mem (heq ▸ List.mem_cons_of_mem _ List.mem_cons_self)
      have hfound := captures_descriptor hline hmore
      rw [Line.ofPlain_keyWord]
      cases hsplit : Line.splitAction? more with
      | none =>
        rw [hsplit, Option.map_none, Option.map_eq_none_iff] at hfound
        rw [hfound]
      | some parts =>
        rw [hsplit, Option.map_some, Option.map_eq_some_iff] at hfound
        obtain ⟨groups, hgroups, heq⟩ := hfound
        obtain ⟨hdescriptor, haction⟩ := Prod.mk.inj heq
        rw [hgroups]
        dsimp only
        rw [hdescriptor, haction]
  · rw [matched, captures_keyLine_of_not hspaced hkey, Line.ofPlain,
      if_neg (mt List.isPrefixOf_iff_prefix.mp htitle),
      if_neg (mt List.isPrefixOf_iff_prefix.mp hkey)]

end Pattern

end TermKeys
