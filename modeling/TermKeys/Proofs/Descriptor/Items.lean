import TermKeys.Proofs.Descriptor
import TermKeys.Proofs.Key

/-!
Descriptors told by places and not by a scan. The items of a text stand at its maximal runs of
letters and numbers, and at its first character if that is neither (`IsItem`), and one of them is
negative if the nearest sign before it is a minus (`IsNegative`); those are the items that are read
(`exists_spans_items`). A condition gains from a row of items all that they name, and from the last
key alone (`foldl_apply`). Together these say what a descriptor means (`decode_meaning`).
-/

set_option autoImplicit false

namespace TermKeys.Descriptor

open Unicode

variable {text rest : Text} {place start stop : Nat} {absent : Bool}

/-! ### Places in a text -/

/-- A part of a text, from a first place up to but not including a last one. -/
structure Span where
  start : Nat
  stop : Nat

/-- What stands in a part of a text. -/
def Span.read (span : Span) (text : Text) : Text :=
  (text.drop span.start).take (span.stop - span.start)

/-- A letter or number stands at a place. -/
def AlphanumericAt (text : Text) (place : Nat) : Prop :=
  ∃ c, text[place]? = some c ∧ isAlphanumeric c = true

/-- A part of letters and numbers, and some of them, with none at either end. -/
structure IsRun (text : Text) (span : Span) : Prop where
  nonempty : span.start < span.stop
  inside : ∀ i, span.start ≤ i → i < span.stop → AlphanumericAt text i
  before : span.start = 0 ∨ ¬AlphanumericAt text (span.start - 1)
  after : ¬AlphanumericAt text span.stop

/-- The parts of a text that are items: its runs, and its first character if that is no letter and
no number. -/
def IsItem (text : Text) (span : Span) : Prop :=
  (span = ⟨0, 1⟩ ∧ ∃ c, text[0]? = some c ∧ isAlphanumeric c = false) ∨ IsRun text span

/-- The nearest sign before a place is a minus. -/
def IsNegative (text : Text) (place : Nat) : Prop :=
  ∃ i < place, text[i]? = some '-' ∧
    ∀ j, i < j → j < place → text[j]? ≠ some '+' ∧ text[j]? ≠ some '-'

/-- An item is what stands in a part of a text, with the sign that holds there. -/
structure Reads (text : Text) (span : Span) (item : Item) : Prop where
  text_eq : item.text = span.read text
  absent_iff : item.absent = true ↔ IsNegative text span.start

theorem of_drop_eq_cons {c : Char} (h : text.drop place = c :: rest) :
    text[place]? = some c ∧ text.drop (place + 1) = rest := by
  constructor
  · rw [← List.head?_drop, h, List.head?_cons]
  · rw [← List.tail_drop, h, List.tail_cons]

theorem AlphanumericAt.lt_length (h : AlphanumericAt text place) : place < text.length := by
  obtain ⟨c, hc, -⟩ := h
  exact (List.getElem?_eq_some_iff.mp hc).1

theorem alphanumericAt_iff {c : Char} (h : text[place]? = some c) :
    AlphanumericAt text place ↔ isAlphanumeric c = true := by
  simp [AlphanumericAt, h]

/-- A run that begins no earlier than a block of letters and numbers with none behind it is that
block or stands behind it. -/
theorem IsRun.eq_or_lt {span : Span} (h : IsRun text span) (hle : start ≤ span.start)
    (hinside : ∀ i, start ≤ i → i < stop → AlphanumericAt text i)
    (hafter : ¬AlphanumericAt text stop) (hstop : start < stop) :
    span = ⟨start, stop⟩ ∨ stop < span.start := by
  have hfirst : AlphanumericAt text span.start := h.inside _ (Nat.le_refl _) h.nonempty
  rcases Nat.lt_trichotomy span.start stop with hlt | heq | hlt
  · left
    have hstart : span.start = start := by
      rcases h.before with hzero | hbefore
      · omega
      · by_contra hne
        exact hbefore (hinside _ (by omega) (by omega))
    have hend : span.stop = stop := by
      rcases Nat.lt_trichotomy span.stop stop with hless | heq | hmore
      · exact absurd (hinside _ (hstart ▸ h.nonempty.le) hless) h.after
      · exact heq
      · exact absurd (h.inside _ hlt.le hmore) hafter
    rw [← hstart, ← hend]
  · exact absurd (heq ▸ hfirst) hafter
  · exact Or.inr hlt

/-! ### Signs -/

theorem not_isNegative_zero : ¬IsNegative text 0 := by
  rintro ⟨i, hi, -⟩
  exact Nat.not_lt_zero i hi

/-- A character decides the sign behind it if it is one, and keeps the sign before it otherwise. -/
theorem isNegative_succ {c : Char} (h : text[place]? = some c) :
    IsNegative text (place + 1) ↔ c = '-' ∨ c ≠ '+' ∧ IsNegative text place := by
  constructor
  · rintro ⟨i, hi, hminus, hbetween⟩
    rcases Nat.lt_succ_iff_lt_or_eq.mp hi with hlt | rfl
    · obtain ⟨hplus, -⟩ := hbetween place hlt (Nat.lt_succ_self place)
      refine Or.inr ⟨fun hc ↦ hplus (hc ▸ h), i, hlt, hminus, fun j hij hj ↦ ?_⟩
      exact hbetween j hij (Nat.lt_succ_of_lt hj)
    · exact Or.inl (Option.some.inj (h.symm.trans hminus))
  · intro hsign
    by_cases hc : c = '-'
    · exact ⟨place, Nat.lt_succ_self place, hc ▸ h, fun j hij hj ↦ absurd hij (by omega)⟩
    · obtain ⟨hplus, i, hi, hminus, hbetween⟩ := hsign.resolve_left hc
      refine ⟨i, Nat.lt_succ_of_lt hi, hminus, fun j hij hj ↦ ?_⟩
      rcases Nat.lt_succ_iff_lt_or_eq.mp hj with hlt | rfl
      · exact hbetween j hij hlt
      · rw [h]
        exact ⟨fun heq ↦ hplus (Option.some.inj heq), fun heq ↦ hc (Option.some.inj heq)⟩

theorem signAfter_eq_true_iff {c : Char} (h : text[place]? = some c)
    (habsent : absent = true ↔ IsNegative text place) :
    signAfter absent c = true ↔ IsNegative text (place + 1) := by
  rw [isNegative_succ h, ← habsent, signAfter]
  by_cases hplus : c = '+'
  · simp [hplus]
  · by_cases hminus : c = '-'
    · simp [hminus]
    · simp [hplus, hminus]

/-! ### The items of a text -/

/-- The parts of the rest of a text: a block of letters and numbers at its front, which may be
empty, and the runs behind that. -/
structure Located (text : Text) (place : Nat) (parts : Text × List Item) : Prop where
  inside : ∀ i, place ≤ i → i < place + parts.1.length → AlphanumericAt text i
  after : ¬AlphanumericAt text (place + parts.1.length)
  head_eq : parts.1 = Span.read ⟨place, place + parts.1.length⟩ text
  exists_spans : ∃ spans : List Span,
    (∀ span, span ∈ spans ↔ IsRun text span ∧ place + parts.1.length ≤ span.start) ∧
      spans.Pairwise (fun one other ↦ one.start < other.start) ∧
      List.Forall₂ (Reads text) spans parts.2

theorem located_nil (h : text.length ≤ place) : Located text place ([], []) := by
  have hnone : ∀ i, place ≤ i → ¬AlphanumericAt text i := by
    intro i hi hat
    exact absurd hat.lt_length (by omega)
  refine ⟨fun i hi hlt ↦ ?_, hnone _ (by simp), ?_, [], fun span ↦ ?_, .nil, .nil⟩
  · exact absurd hlt (by simp only [List.length_nil]; omega)
  · simp [Span.read]
  · refine ⟨by simp, fun ⟨hrun, hle⟩ ↦ ?_⟩
    exact absurd (hrun.inside _ (Nat.le_refl _) hrun.nonempty) (hnone _ (by simpa using hle))

/-- A letter or number belongs to the block behind it. -/
theorem Located.cons {c : Char} {parts : Text × List Item} (hdrop : text.drop place = c :: rest)
    (hc : isAlphanumeric c = true) (h : Located text (place + 1) parts) :
    Located text place (c :: parts.1, parts.2) := by
  have hlength : place + (c :: parts.1).length = place + 1 + parts.1.length := by
    rw [List.length_cons]
    omega
  obtain ⟨hget, hrest⟩ := of_drop_eq_cons hdrop
  refine ⟨fun i hi hlt ↦ ?_, hlength ▸ h.after, ?_, ?_⟩
  · rcases hi.eq_or_lt with rfl | hmore
    · exact (alphanumericAt_iff hget).mpr hc
    · exact h.inside i hmore (hlength ▸ hlt)
  · have hhead := h.head_eq
    rw [Span.read, hrest, Nat.add_sub_cancel_left] at hhead
    rw [Span.read, hdrop, Nat.add_sub_cancel_left, List.length_cons, List.take_succ_cons, ← hhead]
  · simpa only [hlength] using h.exists_spans

/-- The block at the front of the rest of a text is a run, if it is not empty. -/
theorem Located.exists_spans_block {parts : Text × List Item} (h : Located text place parts)
    (hbefore : place = 0 ∨ ¬AlphanumericAt text (place - 1))
    (habsent : absent = true ↔ IsNegative text place) :
    ∃ spans : List Span, (∀ span, span ∈ spans ↔ IsRun text span ∧ place ≤ span.start) ∧
      spans.Pairwise (fun one other ↦ one.start < other.start) ∧
      List.Forall₂ (Reads text) spans
        (if parts.1.isEmpty then parts.2 else ⟨parts.1, absent⟩ :: parts.2) := by
  obtain ⟨spans, hmem, hsorted, hreads⟩ := h.exists_spans
  cases hempty : parts.1.isEmpty with
  | true =>
    rw [List.isEmpty_iff.mp hempty, List.length_nil, Nat.add_zero] at hmem
    exact ⟨spans, hmem, hsorted, hreads⟩
  | false =>
    have hpos : 0 < parts.1.length := by
      rw [List.length_pos_iff, ne_eq, ← List.isEmpty_iff, hempty]
      exact Bool.false_ne_true
    have hrun : IsRun text ⟨place, place + parts.1.length⟩ :=
      ⟨Nat.lt_add_of_pos_right hpos, h.inside, hbefore, h.after⟩
    refine ⟨⟨place, place + parts.1.length⟩ :: spans, fun span ↦ ?_, ?_,
      .cons ⟨h.head_eq, habsent⟩ hreads⟩
    · rw [List.mem_cons, hmem]
      constructor
      · rintro (rfl | ⟨hother, hle⟩)
        · exact ⟨hrun, Nat.le_refl place⟩
        · exact ⟨hother, by omega⟩
      · rintro ⟨hother, hle⟩
        refine (hother.eq_or_lt hle h.inside h.after (by omega)).imp_right ?_
        exact fun hlt ↦ ⟨hother, hlt.le⟩
    · refine List.pairwise_cons.mpr ⟨fun span hspan ↦ ?_, hsorted⟩
      have hle := ((hmem span).mp hspan).2
      dsimp only
      omega

/-- A character of another kind puts an end to a block, and the block behind it becomes an item. -/
theorem Located.sign {c : Char} {parts : Text × List Item} (hget : text[place]? = some c)
    (hc : isAlphanumeric c = false) (h : Located text (place + 1) parts)
    (habsent : absent = true ↔ IsNegative text (place + 1)) :
    Located text place
      ([], if parts.1.isEmpty then parts.2 else ⟨parts.1, absent⟩ :: parts.2) := by
  have hplace : ¬AlphanumericAt text place := by
    rw [alphanumericAt_iff hget, hc]
    exact Bool.false_ne_true
  obtain ⟨spans, hmem, hsorted, hreads⟩ := h.exists_spans_block (Or.inr hplace) habsent
  refine ⟨fun i hi hlt ↦ absurd hlt (by simp only [List.length_nil]; omega), hplace,
    by simp [Span.read], spans, fun span ↦ ?_, hsorted, hreads⟩
  rw [hmem, List.length_nil, Nat.add_zero]
  refine and_congr_right fun hrun ↦ ⟨Nat.le_of_succ_le, fun hle ↦ ?_⟩
  refine Nat.lt_of_le_of_ne hle fun heq ↦ hplace ?_
  exact heq ▸ hrun.inside _ (Nat.le_refl _) hrun.nonempty

/-- What is read of the rest of a text stands there, and there is nothing else. -/
theorem located_headAndItems (hdrop : text.drop place = rest)
    (habsent : absent = true ↔ IsNegative text place) :
    Located text place (headAndItems absent rest) := by
  induction rest generalizing place absent with
  | nil => exact located_nil (List.drop_eq_nil_iff.mp hdrop)
  | cons c rest ih =>
    obtain ⟨hget, hrest⟩ := of_drop_eq_cons hdrop
    have hsign := signAfter_eq_true_iff hget habsent
    cases hc : isAlphanumeric c with
    | true =>
      rw [headAndItems, if_pos hc]
      rw [signAfter_of_isAlphanumeric hc] at hsign
      exact (ih hrest hsign).cons hdrop hc
    | false =>
      rw [headAndItems_sign hc]
      exact (ih hrest hsign).sign hget hc hsign

/-- The items that are read are those that stand in the text, in their order. -/
theorem exists_spans_items (text : Text) :
    ∃ spans : List Span, (∀ span, span ∈ spans ↔ IsItem text span) ∧
      spans.Pairwise (fun one other ↦ one.start < other.start) ∧
      List.Forall₂ (Reads text) spans (items text) := by
  have hfalse : false = true ↔ IsNegative text 0 :=
    ⟨fun h ↦ absurd h Bool.false_ne_true, fun h ↦ absurd h not_isNegative_zero⟩
  have hlocated : Located text 0 (headAndItems false text) :=
    located_headAndItems List.drop_zero hfalse
  obtain ⟨spans, hmem, hsorted, hreads⟩ := hlocated.exists_spans_block (Or.inl rfl) hfalse
  simp only [Nat.zero_le, and_true] at hmem
  cases text with
  | nil => exact ⟨spans, fun span ↦ by simp [hmem, IsItem], hsorted, hreads⟩
  | cons c rest =>
    have hget : (c :: rest)[0]? = some c := rfl
    cases hc : isAlphanumeric c with
    | true =>
      rw [headAndItems, if_pos hc] at hreads
      refine ⟨spans, fun span ↦ ?_, hsorted, ?_⟩
      · simp [hmem, IsItem, hc]
      · rw [items, headAndItems, if_pos hc]
        exact hreads
    | false =>
      have hzero : ¬AlphanumericAt (c :: rest) 0 := by
        rw [alphanumericAt_iff hget, hc]
        exact Bool.false_ne_true
      rw [headAndItems_sign hc] at hreads
      refine ⟨⟨0, 1⟩ :: spans, fun span ↦ ?_, ?_, ?_⟩
      · rw [List.mem_cons, hmem]
        simp [IsItem, hc]
      · refine List.pairwise_cons.mpr ⟨fun span hspan ↦ ?_, hsorted⟩
        have hrun := (hmem span).mp hspan
        refine Nat.pos_of_ne_zero fun heq ↦ hzero ?_
        exact heq ▸ hrun.inside _ (Nat.le_refl _) hrun.nonempty
      · rw [items, headAndItems_sign hc]
        exact .cons ⟨rfl, hfalse⟩ hreads

/-! ### What items name -/

namespace Item

/-- The modifier that an item names. -/
def modifier? (item : Item) : Option Modifier := Modifier.named? item.text

/-- The mode that an item names, if it names no modifier. -/
def mode? (item : Item) : Option Mode :=
  if item.modifier? = none then Mode.named? item.text else none

/-- The code of an item as a key, if it names no modifier and no mode. -/
def key? (item : Item) : Option Nat :=
  if item.modifier? = none ∧ item.mode? = none then (Key.codes item.text).head? else none

/-- An item names no modifier, no mode and no key. -/
def isUnknown (item : Item) : Bool :=
  item.modifier?.isNone && item.mode?.isNone && item.key?.isNone

end Item

theorem keyOf_value (item : Text) : (keyOf item).value = (Key.codes item).head? := by
  unfold keyOf
  split <;> rename_i heq <;> rw [heq] <;> rfl

/-- What an item means, and all that it names. -/
inductive Item.Means (item : Item) : Meaning → Prop
  | modifier (m : Modifier) :
    item.modifier? = some m → item.mode? = none → item.key? = none → item.Means (.modifier m)
  | mode (m : Mode) :
    item.modifier? = none → item.mode? = some m → item.key? = none → item.Means (.mode m)
  | key (code : Nat) :
    item.modifier? = none → item.mode? = none → item.key? = some code → item.Means (.key code)
  | unknown : item.modifier? = none → item.mode? = none → item.key? = none → item.Means .unknown

theorem means_meaning (item : Item) : item.Means (meaning item.text) := by
  unfold meaning
  rw [keyOf_value]
  cases hmodifier : Modifier.named? item.text with
  | some m =>
    exact .modifier m hmodifier (by simp [Item.mode?, Item.modifier?, hmodifier])
      (by simp [Item.key?, Item.modifier?, hmodifier])
  | none =>
    have hmode? : item.mode? = Mode.named? item.text := if_pos hmodifier
    cases hmode : Mode.named? item.text with
    | some m =>
      exact .mode m hmodifier (hmode?.trans hmode) (by simp [Item.key?, hmode?, hmode])
    | none =>
      have hkey? : item.key? = (Key.codes item.text).head? :=
        if_pos ⟨hmodifier, hmode?.trans hmode⟩
      cases hkey : (Key.codes item.text).head? with
      | some code => exact .key code hmodifier (hmode?.trans hmode) (hkey?.trans hkey)
      | none => exact .unknown hmodifier (hmode?.trans hmode) (hkey?.trans hkey)

/-! ### What a row of items adds -/

/-- The condition with all that a row of items names, and with the last key of them alone. -/
def gather (row : List Item) (initial : Condition) : Condition where
  keyCode := ((row.filterMap Item.key?).getLast?.map Int.ofNat).getD initial.keyCode
  modifiers := initial.modifiers |||
    Modifier.bitsOf ((row.filter fun item ↦ !item.absent).filterMap Item.modifier?)
  modifierMask := initial.modifierMask ||| Modifier.bitsOf (row.filterMap Item.modifier?)
  modes := initial.modes |||
    Mode.bitsOf ((row.filter fun item ↦ !item.absent).filterMap Item.mode?)
  modeMask := initial.modeMask ||| Mode.bitsOf (row.filterMap Item.mode?)

theorem getLast?_cons_getD (code : Nat) (codes : List Nat) (initial : Int) :
    ((code :: codes).getLast?.map Int.ofNat).getD initial =
      (codes.getLast?.map Int.ofNat).getD code := by
  rw [List.getLast?_cons]
  cases codes.getLast? <;> rfl

/-- A further item in front adds what it adds on its own, but its key gives way to a later one. -/
theorem gather_cons (item : Item) (row : List Item) (initial : Condition) :
    gather (item :: row) initial = gather row (apply initial item) := by
  have hmeans := means_meaning item
  rw [apply]
  cases habsent : item.absent <;> generalize meaning item.text = meant at * <;> cases hmeans with
  | modifier m hmodifier hmode hkey =>
    simp [gather, hmodifier, hmode, hkey, habsent, Modifier.bitsOf, Nat.or_assoc]
  | mode m hmodifier hmode hkey =>
    simp [gather, hmodifier, hmode, hkey, habsent, Mode.bitsOf, Nat.or_assoc]
  | key code hmodifier hmode hkey =>
    simp [gather, hmodifier, hmode, hkey, habsent, getLast?_cons_getD]
  | unknown hmodifier hmode hkey => simp [gather, hmodifier, hmode, hkey, habsent]

theorem foldl_apply (row : List Item) (initial : Condition) :
    row.foldl apply initial = gather row initial := by
  induction row generalizing initial with
  | nil => simp [gather, Modifier.bitsOf, Mode.bitsOf]
  | cons item rest ih => rw [List.foldl_cons, ih, ← gather_cons]

/-- The one remark about an item of a text is that it names nothing: it is one key at most. -/
theorem notesOf_eq {item : Item} (hcomma : item.text = [','] ∨ ',' ∉ item.text) :
    notesOf item = if item.isUnknown then [.unknownItem item.text] else [] := by
  have hnotes : (keyOf item.text).notes = [] := by
    rw [keyOf, Key.codes_eq_trim hcomma]
    cases Key.codeOf? (Text.trim item.text) <;> rfl
  have hmeans := means_meaning item
  unfold notesOf Item.isUnknown
  generalize meaning item.text = meant at *
  cases hmeans with
  | modifier m hmodifier => simp [hmodifier]
  | mode m _ hmode => simp [hmode]
  | key code _ _ hkey => simp [hkey, hnotes]
  | unknown hmodifier hmode hkey => simp [hmodifier, hmode, hkey]

theorem flatMap_notesOf {row : List Item}
    (hcomma : ∀ item ∈ row, item.text = [','] ∨ ',' ∉ item.text) :
    row.flatMap notesOf =
      (row.filter Item.isUnknown).map fun item ↦ Diagnostic.unknownItem item.text := by
  induction row with
  | nil => rfl
  | cons item rest ih =>
    rw [List.flatMap_cons, notesOf_eq (hcomma item List.mem_cons_self),
      ih fun other hother ↦ hcomma other (List.mem_cons_of_mem _ hother), List.filter_cons]
    cases item.isUnknown <;> rfl

/-- A descriptor means what its items name. Those are told by their places in the text; the masks
gain what every item names and the sets what those that are not negative name, the last key counts,
and there is one remark for each item that names nothing, and no other. -/
theorem decode_meaning (text : Text) (initial : Condition) :
    ∃ (spans : List Span) (row : List Item),
      (∀ span, span ∈ spans ↔ IsItem text span) ∧
      spans.Pairwise (fun one other ↦ one.start < other.start) ∧
      List.Forall₂ (Reads text) spans row ∧
      (decode text initial).value = gather row initial ∧
      (decode text initial).notes =
        ((row.filter Item.isUnknown).map fun item ↦ Diagnostic.unknownItem item.text) ∧
      ∀ item, Diagnostic.severalKeys item ∉ (decode text initial).notes := by
  obtain ⟨spans, hmem, hsorted, hreads⟩ := exists_spans_items text
  have hnotes : (decode text initial).notes =
      ((items text).filter Item.isUnknown).map fun item ↦ Diagnostic.unknownItem item.text :=
    flatMap_notesOf fun item hitem ↦ comma_of_mem_items hitem
  refine ⟨spans, items text, hmem, hsorted, hreads, foldl_apply _ _, hnotes, fun item hitem ↦ ?_⟩
  rw [hnotes, List.mem_map] at hitem
  obtain ⟨other, -, heq⟩ := hitem
  exact Diagnostic.noConfusion heq

end TermKeys.Descriptor
