import Mathlib.Tactic.SplitIfs
import TermKeys.Json.Parser

/-!
How deep the brackets of a text stand inside each other, those in strings not counted. A text is
refused as too deep only if its brackets do stand that deep (`lt_nesting_of_parse`): what reading a
value leaves of the text stands no deeper than the text itself, so each container that is opened on
the way counts for one. What a document begins with tells whether it is an object
(`isObject_of_parse`).
-/

set_option autoImplicit false

namespace TermKeys.Json

/-- Where a character of a document stands: outside of strings, in a string, or in a string and
behind a backslash. -/
inductive Place
  | outside
  | inside
  | escaped
deriving DecidableEq, Repr

/-- The most brackets that stand open at once in a text, so many being open in front of it. -/
def nesting (level : Nat) : Place → Text → Nat
  | _, [] => level
  | .escaped, _ :: rest => nesting level .inside rest
  | .inside, c :: rest =>
    if c = '"' then nesting level .outside rest
    else if c = '\\' then nesting level .escaped rest
    else nesting level .inside rest
  | .outside, c :: rest =>
    if c = '"' then nesting level .inside rest
    else if c = '[' ∨ c = '\x7b' then nesting (level + 1) .outside rest
    else if c = ']' ∨ c = '\x7d' then max level (nesting (level - 1) .outside rest)
    else nesting level .outside rest

variable {levels fuel : Nat} {text rest : Text}

theorem level_le_nesting (level : Nat) (place : Place) (text : Text) :
    level ≤ nesting level place text := by
  induction text generalizing level place with
  | nil => simp [nesting]
  | cons c rest ih =>
    cases place with
    | escaped => exact ih level .inside
    | inside =>
      rw [nesting]
      split_ifs
      · exact ih level .outside
      · exact ih level .escaped
      · exact ih level .inside
    | outside =>
      rw [nesting]
      split_ifs
      · exact ih level .inside
      · exact Nat.le_trans (Nat.le_succ level) (ih (level + 1) .outside)
      · exact Nat.le_max_left ..
      · exact ih level .outside

/-! ### Characters that open and close nothing -/

/-- The characters that begin a string and that open and close containers. -/
def marks : Text := ['"', '[', '\x7b', ']', '\x7d']

theorem nesting_cons_of_not_mem_marks {c : Char} (h : c ∉ marks) (level : Nat) (rest : Text) :
    nesting level .outside (c :: rest) = nesting level .outside rest := by
  simp only [marks, List.mem_cons, List.not_mem_nil, or_false, not_or] at h
  obtain ⟨hquote, hlist, hobject, hlistEnd, hobjectEnd⟩ := h
  simp [nesting, hquote, hlist, hobject, hlistEnd, hobjectEnd]

theorem nesting_append_of_not_mem_marks {front : Text} (h : ∀ c ∈ front, c ∉ marks) (level : Nat)
    (rest : Text) : nesting level .outside (front ++ rest) = nesting level .outside rest := by
  induction front with
  | nil => rfl
  | cons c front ih =>
    rw [List.cons_append, nesting_cons_of_not_mem_marks (h c List.mem_cons_self)]
    exact ih fun other hother ↦ h other (List.mem_cons_of_mem _ hother)

theorem not_mem_marks {p : Char → Bool} (hmarks : marks.any p = false) {c : Char}
    (h : p c = true) : c ∉ marks :=
  fun hmem ↦ List.any_eq_false.mp hmarks c hmem h

theorem nesting_dropWhile {p : Char → Bool} (hmarks : marks.any p = false) (level : Nat)
    (text : Text) :
    nesting level .outside (text.dropWhile p) = nesting level .outside text := by
  induction text with
  | nil => rfl
  | cons c rest ih =>
    rw [List.dropWhile_cons]
    split_ifs with hc
    · rw [ih, nesting_cons_of_not_mem_marks (not_mem_marks hmarks hc)]
    · rfl

theorem nesting_skipSpace (level : Nat) (text : Text) :
    nesting level .outside (skipSpace text) = nesting level .outside text :=
  nesting_dropWhile (by decide) level text

theorem nesting_dropDigits (level : Nat) (text : Text) :
    nesting level .outside (text.dropWhile isDigit) = nesting level .outside text :=
  nesting_dropWhile (by decide) level text

/-! ### Strings, words and numbers -/

theorem plain_of_hexValue? {c : Char} {value : Nat} (h : Text.hexValue? c = some value) :
    c ≠ '"' ∧ c ≠ '\\' := by
  refine ⟨?_, ?_⟩ <;> rintro rfl <;> exact nomatch h

theorem nesting_inside_of_plain {c : Char} (h : c ≠ '"' ∧ c ≠ '\\') (level : Nat) (rest : Text) :
    nesting level .inside (c :: rest) = nesting level .inside rest := by
  rw [nesting, if_neg h.1, if_neg h.2]

theorem plain_of_hexUnit? {a b c d : Char} {unit : Nat} (h : hexUnit? a b c d = some unit) :
    ∀ digit ∈ [a, b, c, d], digit ≠ '"' ∧ digit ≠ '\\' := by
  simp only [hexUnit?, Option.bind_eq_bind, Option.bind_eq_some_iff] at h
  obtain ⟨_, ha, _, hb, _, hc, _, hd, -⟩ := h
  intro digit hdigit
  simp only [List.mem_cons, List.not_mem_nil, or_false] at hdigit
  obtain rfl | rfl | rfl | rfl := hdigit
  · exact plain_of_hexValue? ha
  · exact plain_of_hexValue? hb
  · exact plain_of_hexValue? hc
  · exact plain_of_hexValue? hd

/-- A string ends at its first quote that no backslash stands in front of. -/
theorem nesting_of_pieces? {pieces : List Piece} (h : pieces? text = some (pieces, rest))
    (level : Nat) : nesting level .inside text = nesting level .outside rest := by
  fun_induction pieces? text generalizing pieces with
  | case1 => exact nomatch h
  | case2 after =>
    obtain ⟨-, rfl⟩ := Prod.mk.inj (Option.some.inj h)
    simp [nesting]
  | case3 a b c d after _ ih =>
    obtain ⟨unit, hunit, hmap⟩ := Option.bind_eq_some_iff.mp h
    obtain ⟨⟨others, _⟩, hothers, hparts⟩ := Option.map_eq_some_iff.mp hmap
    obtain ⟨-, rfl⟩ := Prod.mk.inj hparts
    have hplain := plain_of_hexUnit? hunit
    have hescape : nesting level .inside ('\\' :: 'u' :: a :: b :: c :: d :: after) =
        nesting level .inside (a :: b :: c :: d :: after) := by
      simp [nesting]
    rw [hescape, nesting_inside_of_plain (hplain a (by simp)),
      nesting_inside_of_plain (hplain b (by simp)), nesting_inside_of_plain (hplain c (by simp)),
      nesting_inside_of_plain (hplain d (by simp))]
    exact ih hothers
  | case4 mark after _ _ ih =>
    obtain ⟨c, -, hmap⟩ := Option.bind_eq_some_iff.mp h
    obtain ⟨⟨others, _⟩, hothers, hparts⟩ := Option.map_eq_some_iff.mp hmap
    obtain ⟨-, rfl⟩ := Prod.mk.inj hparts
    have hescape : nesting level .inside ('\\' :: mark :: after) = nesting level .inside after := by
      simp [nesting]
    rw [hescape]
    exact ih hothers
  | case5 => exact nomatch h
  | case6 => exact nomatch h
  | case7 c after hquote hslash _ ih =>
    obtain ⟨⟨others, _⟩, hothers, hparts⟩ := Option.map_eq_some_iff.mp h
    obtain ⟨-, rfl⟩ := Prod.mk.inj hparts
    rw [nesting_inside_of_plain ⟨hquote, hslash⟩]
    exact ih hothers

theorem nesting_of_string? {content : Text} (h : string? text = some (content, rest))
    (level : Nat) : nesting level .outside ('"' :: text) = nesting level .outside rest := by
  obtain ⟨⟨pieces, _⟩, hpieces, hparts⟩ := Option.map_eq_some_iff.mp h
  obtain ⟨-, rfl⟩ := Prod.mk.inj hparts
  have hopen : nesting level .outside ('"' :: text) = nesting level .inside text := by
    simp [nesting]
  rw [hopen]
  exact nesting_of_pieces? hpieces level

theorem nesting_of_word? {item : Json} (h : word? text = some (item, rest)) (level : Nat) :
    nesting level .outside text = nesting level .outside rest := by
  obtain ⟨entry, hentry, hparts⟩ := Option.map_eq_some_iff.mp h
  obtain ⟨-, rfl⟩ := Prod.mk.inj hparts
  have hwords : (words.all fun entry ↦ entry.1.all fun c ↦ !marks.contains c) = true := by decide
  have hplain : ∀ c ∈ entry.1, c ∉ marks := by
    have hword := List.all_eq_true.mp hwords entry (List.mem_of_find?_eq_some hentry)
    simpa using hword
  have hfront := List.find?_some hentry
  obtain ⟨more, rfl⟩ := List.isPrefixOf_iff_prefix.mp hfront
  rw [List.drop_left]
  exact nesting_append_of_not_mem_marks hplain level more

theorem nesting_of_wholePart? {digits : Text} (h : wholePart? text = some (digits, rest))
    (level : Nat) : nesting level .outside text = nesting level .outside rest := by
  cases text with
  | nil => exact nomatch h
  | cons c more =>
    rw [wholePart?] at h
    split_ifs at h with hzero hdigit
    · obtain ⟨-, rfl⟩ := Prod.mk.inj (Option.some.inj h)
      rw [hzero, nesting_cons_of_not_mem_marks (by decide)]
    · obtain ⟨-, rfl⟩ := Prod.mk.inj (Option.some.inj h)
      rw [nesting_dropDigits, nesting_cons_of_not_mem_marks (not_mem_marks (by decide) hdigit)]

theorem nesting_fractionPart (level : Nat) (text : Text) :
    nesting level .outside (fractionPart text).2 = nesting level .outside text := by
  unfold fractionPart
  split
  · next more =>
    split
    · rfl
    · rw [nesting_dropDigits, nesting_cons_of_not_mem_marks (by decide)]
  · rfl

theorem nesting_exponentPart (level : Nat) (text : Text) :
    nesting level .outside (exponentPart text).2 = nesting level .outside text := by
  unfold exponentPart
  split
  · next mark more =>
    split_ifs with hmark
    · have hplain : mark ∉ marks := by
        obtain rfl | rfl := hmark <;> decide
      rw [nesting_cons_of_not_mem_marks hplain]
      split
      next negative digits hsign =>
      have hdigits : nesting level .outside digits = nesting level .outside more := by
        split at hsign <;> obtain ⟨-, rfl⟩ := Prod.mk.inj hsign
        · rw [nesting_cons_of_not_mem_marks (by decide)]
        · rw [nesting_cons_of_not_mem_marks (by decide)]
        · rfl
      split
      · rw [nesting_cons_of_not_mem_marks hplain]
      · rw [nesting_dropDigits, hdigits]
    · rfl
  · rfl

theorem nesting_of_number? {negative : Bool} {item : Json}
    (h : number? negative text = some (item, rest)) (level : Nat) :
    nesting level .outside text = nesting level .outside rest := by
  obtain ⟨⟨digits, more⟩, hwhole, hnumber⟩ := Option.bind_eq_some_iff.mp h
  have hrest : (exponentPart (fractionPart more).2).2 = rest := by
    dsimp only at hnumber
    split at hnumber
    · split at hnumber
      · exact nomatch hnumber
      · exact congrArg Prod.snd (Option.some.inj hnumber)
    · exact congrArg Prod.snd (Option.some.inj hnumber)
  rw [← hrest, nesting_exponentPart, nesting_fractionPart]
  exact nesting_of_wholePart? hwhole level

/-! ### Values -/

/-- How a result of reading stands to the text that was read, with so many containers left to open
and so many that the text closes: what is left stands no deeper than the text, and a text that is
too deep has more brackets inside each other than might be opened. -/
def Nests {α : Type} (levels closing : Nat) (text : Text) : Except Flaw (α × Text) → Prop
  | .ok (_, rest) => ∀ level, nesting level .outside rest ≤ nesting (level + closing) .outside text
  | .error (.tooDeep _) => ∀ level, level + levels < nesting level .outside text
  | .error .malformed => True

variable {α β : Type} {closing : Nat} {result : Except Flaw (α × Text)}

/-- A text nests as deep as what is left of it, and may nest deeper. -/
theorem Nests.mono (hresult : Nests levels closing rest result)
    (h : ∀ level, nesting level .outside rest ≤ nesting level .outside text) :
    Nests levels closing text result := by
  match result, hresult with
  | .ok _, hresult => exact fun level ↦ Nat.le_trans (hresult level) (h (level + closing))
  | .error (.tooDeep _), hresult => exact fun level ↦ Nat.lt_of_lt_of_le (hresult level) (h level)
  | .error .malformed, _ => exact trivial

/-- Reading goes on where a value has ended. -/
theorem Nests.bind {next : α × Text → Except Flaw (β × Text)} (hresult : Nests levels 0 text result)
    (hnext : ∀ item rest, Nests levels closing rest (next (item, rest))) :
    Nests levels closing text (result >>= next) := by
  match result, hresult with
  | .ok (item, rest), hresult => exact (hnext item rest).mono hresult
  | .error (.tooDeep _), hresult => exact hresult
  | .error .malformed, _ => exact trivial

theorem Nests.made (hresult : Nests levels closing text result) (make : α → β) :
    Nests levels closing text (result >>= fun parts ↦ .ok (make parts.1, parts.2)) := by
  match result, hresult with
  | .ok _, hresult => exact hresult
  | .error (.tooDeep _), hresult => exact hresult
  | .error .malformed, _ => exact trivial

theorem nesting_open {bracket : Char} (h : bracket = '[' ∨ bracket = '\x7b') (level : Nat)
    (text : Text) : nesting level .outside (bracket :: text) = nesting (level + 1) .outside text := by
  obtain rfl | rfl := h <;> simp [nesting]

theorem nesting_close {bracket : Char} (h : bracket = ']' ∨ bracket = '\x7d') (level : Nat)
    (text : Text) :
    nesting level .outside text ≤ nesting (level + 1) .outside (bracket :: text) := by
  have hclose : nesting (level + 1) .outside (bracket :: text) =
      max (level + 1) (nesting level .outside text) := by
    obtain rfl | rfl := h <;> simp [nesting]
  rw [hclose]
  exact Nat.le_max_right ..

theorem nests_tooDeep {bracket : Char} (h : bracket = '[' ∨ bracket = '\x7b')
    (container : Container) (text : Text) :
    Nests 0 closing (bracket :: text)
      (.error (.tooDeep container) : Except Flaw (α × Text)) := by
  intro level
  rw [nesting_open h]
  exact level_le_nesting (level + 1) .outside text

/-- A container may hold what nests within one bracket less. -/
theorem Nests.container {bracket : Char} (h : bracket = '[' ∨ bracket = '\x7b')
    (hresult : Nests levels 1 (skipSpace text) result) (hold : α → β) :
    Nests (levels + 1) 0 (bracket :: text) (result.map fun parts ↦ (hold parts.1, parts.2)) := by
  match result, hresult with
  | .ok (_, rest), hresult =>
    intro level
    have hinner := hresult level
    rw [nesting_skipSpace] at hinner
    rw [Nat.add_zero, nesting_open h]
    exact hinner
  | .error (.tooDeep _), hresult =>
    intro level
    have hinner := hresult (level + 1)
    rw [nesting_skipSpace] at hinner
    rw [nesting_open h]
    omega
  | .error .malformed, _ => exact trivial

theorem nests_last {bracket : Char} (h : bracket = ']' ∨ bracket = '\x7d')
    (hclose : skipSpace text = bracket :: rest) (item : α) :
    Nests levels 1 text (.ok (item, rest)) := by
  intro level
  rw [← nesting_skipSpace (level + 1) text, hclose]
  exact nesting_close h level rest

theorem nests_empty {opening closing : Char} (hopening : opening = '[' ∨ opening = '\x7b')
    (hclosing : closing = ']' ∨ closing = '\x7d') (hclose : skipSpace text = closing :: rest)
    (item : α) : Nests levels 0 (opening :: text) (.ok (item, rest)) := by
  have hlast : Nests levels 1 text (.ok (item, rest)) := nests_last hclosing hclose item
  intro level
  rw [Nat.add_zero, nesting_open hopening]
  exact hlast level

/-- What stands behind a comma or a colon nests as deep as the text. -/
theorem nesting_behind {c : Char} (h : c ∉ marks) (hnext : skipSpace text = c :: rest)
    (level : Nat) : nesting level .outside (skipSpace rest) ≤ nesting level .outside text := by
  refine Nat.le_of_eq ?_
  rw [nesting_skipSpace, ← nesting_skipSpace level text, hnext, nesting_cons_of_not_mem_marks h]

theorem nests_ifRead {result : Option (α × Text)}
    (h : ∀ item rest, result = some (item, rest) → ∀ level,
      nesting level .outside text = nesting level .outside rest) :
    Nests levels 0 text (ifRead result) := by
  cases result with
  | none => exact trivial
  | some parts =>
    obtain ⟨item, rest⟩ := parts
    exact fun level ↦ Nat.le_of_eq (h item rest rfl level).symm

theorem nests_value (hitems : ∀ levels text, Nests levels 1 text (items fuel levels text))
    (hfields : ∀ levels text, Nests levels 1 text (fields fuel levels [] text))
    (levels : Nat) (text : Text) : Nests levels 0 text (value (fuel + 1) levels text) := by
  cases text with
  | nil => exact trivial
  | cons c rest =>
    rw [value.eq_def]
    dsimp only
    split_ifs with hstring hlist hobject hminus
    · refine nests_ifRead fun item after h ↦ ?_
      obtain ⟨⟨content, _⟩, hcontent, hparts⟩ := Option.map_eq_some_iff.mp h
      obtain ⟨-, rfl⟩ := Prod.mk.inj hparts
      rw [hstring]
      exact nesting_of_string? hcontent
    · have hopening : c = '[' ∨ c = '\x7b' := Or.inl hlist
      cases levels with
      | zero => exact nests_tooDeep hopening .list rest
      | succ levels =>
        dsimp only
        split
        · next hclose => exact nests_empty hopening (Or.inl rfl) hclose _
        · exact Nests.container hopening (hitems levels _) Json.list
    · have hopening : c = '[' ∨ c = '\x7b' := Or.inr hobject
      cases levels with
      | zero => exact nests_tooDeep hopening .object rest
      | succ levels =>
        dsimp only
        split
        · next hclose => exact nests_empty hopening (Or.inr rfl) hclose _
        · exact Nests.container hopening (hfields levels _) Json.object
    · split
      · next item hword => exact fun level ↦ Nat.le_of_eq (nesting_of_word? hword level).symm
      · refine nests_ifRead fun item after h level ↦ ?_
        rw [hminus, nesting_cons_of_not_mem_marks (by decide)]
        exact nesting_of_number? h level
    · split
      · next item hword => exact fun level ↦ Nat.le_of_eq (nesting_of_word? hword level).symm
      · exact nests_ifRead fun item after h ↦ nesting_of_number? h

theorem nests_items (hvalue : ∀ levels text, Nests levels 0 text (value fuel levels text))
    (hitems : ∀ levels text, Nests levels 1 text (items fuel levels text))
    (levels : Nat) (text : Text) : Nests levels 1 text (items (fuel + 1) levels text) := by
  rw [items]
  refine (hvalue levels text).bind fun item rest ↦ ?_
  dsimp only
  split
  · next hclose => exact nests_last (Or.inl rfl) hclose _
  · next hcomma =>
    exact ((hitems levels _).made (item :: ·)).mono (nesting_behind (by decide) hcomma)
  · exact trivial

theorem nests_fields (hvalue : ∀ levels text, Nests levels 0 text (value fuel levels text))
    (hfields : ∀ levels before text, Nests levels 1 text (fields fuel levels before text))
    (levels : Nat) (before : List (Text × Json)) (text : Text) :
    Nests levels 1 text (fields (fuel + 1) levels before text) := by
  rw [fields.eq_def]
  dsimp only
  split
  · next rest =>
    have hname : Nests levels 0 ('"' :: rest) (ifRead (string? rest)) :=
      nests_ifRead fun name after h ↦ nesting_of_string? h
    refine hname.bind fun name after ↦ ?_
    dsimp only
    split
    · next hcolon =>
      refine ((hvalue levels _).bind fun item after ↦ ?_).mono (nesting_behind (by decide) hcolon)
      dsimp only
      split
      · next hclose => exact nests_last (Or.inr rfl) hclose _
      · next hcomma => exact (hfields levels _ _).mono (nesting_behind (by decide) hcomma)
      · exact trivial
    · exact trivial
  · exact trivial

/-- Reading keeps to the nesting of the text, whatever it reads. -/
theorem nests (fuel : Nat) :
    (∀ levels text, Nests levels 0 text (value fuel levels text)) ∧
    (∀ levels text, Nests levels 1 text (items fuel levels text)) ∧
    (∀ levels before text, Nests levels 1 text (fields fuel levels before text)) := by
  -- The three readers call each other with less fuel, so none of the parts goes by itself.
  induction fuel with
  | zero =>
    refine ⟨fun levels text ↦ ?_, fun levels text ↦ ?_, fun levels before text ↦ ?_⟩
    · rw [value]
      exact trivial
    · rw [items]
      exact trivial
    · rw [fields]
      exact trivial
  | succ fuel ih =>
    obtain ⟨hvalue, hitems, hfields⟩ := ih
    exact ⟨nests_value hitems fun levels text ↦ hfields levels [] text, nests_items hvalue hitems,
      nests_fields hvalue hfields⟩

/-- A text is too deep only if more brackets stand inside each other than may. -/
theorem lt_nesting_of_parse {container : Container}
    (h : parse levels text = .error (.tooDeep container)) : levels < nesting 0 .outside text := by
  have hnests := (nests (2 * text.length + 2)).1 levels (skipSpace text)
  rw [parse] at h
  cases hvalue : value (2 * text.length + 2) levels (skipSpace text) with
  | error flaw =>
    rw [hvalue] at h hnests
    obtain rfl := Except.error.inj h
    have hlevel := hnests 0
    rwa [nesting_skipSpace, Nat.zero_add] at hlevel
  | ok parts =>
    rw [hvalue] at h
    simp only [bind, Except.bind] at h
    split at h
    · exact nomatch h
    · exact nomatch h

theorem skipSpace_replicate (depth : Nat) (rest : Text) :
    skipSpace (List.replicate (depth + 1) '[' ++ rest) =
      '[' :: (List.replicate depth '[' ++ rest) := rfl

theorem value_replicate (levels : Nat) {fuel : Nat} (hfuel : 2 * levels < fuel) (rest : Text) :
    value fuel levels (List.replicate (levels + 1) '[' ++ rest) = .error (.tooDeep .list) := by
  induction levels generalizing fuel with
  | zero =>
    obtain ⟨fuel, rfl⟩ := Nat.exists_eq_add_of_le' hfuel
    rw [value.eq_def]
    rfl
  | succ levels ih =>
    obtain ⟨fuel, rfl⟩ := Nat.exists_eq_add_of_le' (show 2 ≤ fuel by omega)
    have hitems : items (fuel + 1) levels ('[' :: (List.replicate levels '[' ++ rest)) =
        .error (.tooDeep .list) := by
      rw [← List.cons_append, ← List.replicate_succ, items, ih (by omega)]
      rfl
    rw [List.replicate_succ, List.cons_append, value.eq_def]
    simp only [Char.reduceEq, ↓reduceIte, skipSpace_replicate]
    exact congrArg (Except.map fun parts ↦ (list parts.1, parts.2)) hitems

/-- The limit is reached: one opening bracket more is too deep, whatever follows. -/
theorem parse_replicate (levels : Nat) (rest : Text) :
    parse levels (List.replicate (levels + 1) '[' ++ rest) = .error (.tooDeep .list) := by
  have hfuel : 2 * levels < 2 * (List.replicate (levels + 1) '[' ++ rest).length + 2 := by
    rw [List.length_append, List.length_replicate]
    omega
  rw [parse, skipSpace_replicate, ← List.cons_append, ← List.replicate_succ,
    value_replicate levels hfuel]
  rfl

/-! ### What a document begins with -/

/-- Whether a value is an object. -/
def isObject : Json → Bool
  | .object _ => true
  | _ => false

theorem isObject_of_word? {item : Json} (h : word? text = some (item, rest)) :
    item.isObject = false := by
  obtain ⟨entry, hentry, hparts⟩ := Option.map_eq_some_iff.mp h
  obtain ⟨rfl, -⟩ := Prod.mk.inj hparts
  have hwords : (words.all fun entry ↦ !entry.2.isObject) = true := by decide
  simpa using List.all_eq_true.mp hwords entry (List.mem_of_find?_eq_some hentry)

theorem isObject_of_number? {negative : Bool} {item : Json}
    (h : number? negative text = some (item, rest)) : item.isObject = false := by
  obtain ⟨⟨digits, more⟩, -, hnumber⟩ := Option.bind_eq_some_iff.mp h
  dsimp only at hnumber
  split at hnumber
  · split at hnumber
    · exact nomatch hnumber
    · obtain ⟨rfl, -⟩ := Prod.mk.inj (Option.some.inj hnumber)
      rfl
  · obtain ⟨rfl, -⟩ := Prod.mk.inj (Option.some.inj hnumber)
    rfl

theorem ifRead_eq_ok {result : Option α} {item : α} (h : ifRead result = .ok item) :
    result = some item := by
  cases result with
  | none => exact nomatch h
  | some value => exact congrArg some (Except.ok.inj h)

theorem isObject_of_map (make : α → Json) {kind : Bool} (hmake : ∀ a, (make a).isObject = kind)
    {item : Json} (h : (result.map fun parts ↦ (make parts.1, parts.2)) = .ok (item, rest)) :
    item.isObject = kind := by
  cases result with
  | error flaw => exact nomatch h
  | ok parts =>
    obtain ⟨rfl, -⟩ := Prod.mk.inj (Except.ok.inj h)
    exact hmake parts.1

/-- A value is an object just if it begins with a brace. -/
theorem isObject_of_value {item : Json} (h : value fuel levels text = .ok (item, rest)) :
    item.isObject = decide (text.head? = some '\x7b') := by
  rw [value.eq_def] at h
  split at h
  · exact nomatch h
  · exact nomatch h
  · next levels _ fuel c more =>
    rw [List.head?_cons]
    split_ifs at h with hstring hlist hobject hminus
    · obtain ⟨parts, -, hparts⟩ := Option.map_eq_some_iff.mp (ifRead_eq_ok h)
      obtain ⟨rfl, -⟩ := Prod.mk.inj hparts
      rw [hstring]
      rfl
    · rw [hlist]
      split at h
      · exact nomatch h
      · split at h
        · obtain ⟨rfl, -⟩ := Prod.mk.inj (Except.ok.inj h)
          rfl
        · exact isObject_of_map Json.list (fun _ ↦ rfl) h
    · rw [hobject]
      split at h
      · exact nomatch h
      · split at h
        · obtain ⟨rfl, -⟩ := Prod.mk.inj (Except.ok.inj h)
          rfl
        · exact isObject_of_map Json.object (fun _ ↦ rfl) h
    all_goals
      have hother : item.isObject = false := by
        split at h
        · next result hword =>
          obtain rfl := Except.ok.inj h
          exact isObject_of_word? hword
        · exact isObject_of_number? (ifRead_eq_ok h)
      rw [hother]
      simpa using hobject

/-- A document is an object just if its text begins with a brace, blanks not counted. -/
theorem isObject_of_parse {document : Json} (h : parse levels text = .ok document) :
    document.isObject = decide ((skipSpace text).head? = some '\x7b') := by
  rw [parse] at h
  cases hvalue : value (2 * text.length + 2) levels (skipSpace text) with
  | error flaw =>
    rw [hvalue] at h
    exact nomatch h
  | ok parts =>
    rw [hvalue] at h
    simp only [bind, Except.bind] at h
    split at h
    · rw [← Except.ok.inj h]
      exact isObject_of_value hvalue
    · exact nomatch h

end TermKeys.Json
