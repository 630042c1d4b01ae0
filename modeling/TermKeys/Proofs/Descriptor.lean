import Mathlib.Data.Nat.Bitwise
import TermKeys.Descriptor
import TermKeys.Proofs.Unicode.Folding

/-!
Descriptors and the conditions they give. A row of items is read back from its written form
(`items_append_written`), the modifiers and modes that a condition is written with give the bits of
its masks back (`foldl_flagItems`), and any condition from a descriptor has named bits alone, and in
its sets only those of its masks (`named_decode` and `within_decode`).
-/

set_option autoImplicit false

namespace TermKeys

open Unicode

/-! ### Sets of bits -/

/-- The bits of some modifiers. -/
def Modifier.bitsOf (modifiers : List Modifier) : Nat :=
  modifiers.foldr (fun m bits ↦ m.bit ||| bits) 0

/-- The bits of some modes. -/
def Mode.bitsOf (modes : List Mode) : Nat := modes.foldr (fun m bits ↦ m.bit ||| bits) 0

theorem Modifier.exists_bit (m : Modifier) : ∃ k, m.bit = 2 ^ k := by
  cases m
  exacts [⟨25, rfl⟩, ⟨26, rfl⟩, ⟨27, rfl⟩, ⟨28, rfl⟩, ⟨29, rfl⟩]

theorem Mode.exists_bit (m : Mode) : ∃ k, m.bit = 2 ^ k := by
  cases m
  exacts [⟨3, rfl⟩, ⟨0, rfl⟩, ⟨1, rfl⟩, ⟨2, rfl⟩, ⟨4, rfl⟩, ⟨5, rfl⟩]

theorem Modifier.bit_and_every (m : Modifier) : m.bit &&& bitsOf all = m.bit := by
  cases m <;> rfl

theorem Mode.bit_and_every (m : Mode) : m.bit &&& bitsOf all = m.bit := by
  cases m <;> rfl

namespace Condition

/-- A set with a bit has the whole of it, if it is a single one. -/
theorem and_bit {bit : Nat} (hbit : ∃ k, bit = 2 ^ k) (set : Nat) :
    set &&& bit = if hasBit set bit then bit else 0 := by
  obtain ⟨k, rfl⟩ := hbit
  have hand := Nat.and_two_pow set k
  unfold hasBit
  cases htest : set.testBit k with
  | false =>
    rw [htest, Bool.toNat_false, Nat.zero_mul] at hand
    simp [hand]
  | true =>
    rw [htest, Bool.toNat_true, Nat.one_mul] at hand
    simp [hand]

theorem and_or_of_and {set mask : Nat} (h : set &&& mask = set) (more : Nat) :
    set &&& (mask ||| more) = set := by
  rw [Nat.and_or_distrib_left, h]
  refine Nat.eq_of_testBit_eq fun i ↦ ?_
  rw [Nat.testBit_or, Nat.testBit_and]
  cases set.testBit i <;> rfl

theorem or_and_or_of_and {set mask : Nat} (h : set &&& mask = set) (more : Nat) :
    (set ||| more) &&& (mask ||| more) = set ||| more := by
  rw [← Nat.or_and_distrib_right, h]

/-- The masks of a condition have named bits alone. -/
structure Named (condition : Condition) : Prop where
  modifiers : condition.modifierMask &&& Modifier.bitsOf Modifier.all = condition.modifierMask
  modes : condition.modeMask &&& Mode.bitsOf Mode.all = condition.modeMask

/-- The sets of a condition lie within its masks. -/
structure Within (condition : Condition) : Prop where
  modifiers : condition.modifiers &&& condition.modifierMask = condition.modifiers
  modes : condition.modes &&& condition.modeMask = condition.modes

end Condition

namespace Descriptor

/-! ### Items -/

/-- An item as it is written: its sign and its text. -/
def Item.written (item : Item) : Text := (if item.absent then '-' else '+') :: item.text

/-- Letters and numbers alone, and some of them. -/
def IsName (text : Text) : Prop := text ≠ [] ∧ ∀ c ∈ text, isAlphanumeric c = true

theorem headAndItems_append {head : Text} (h : ∀ c ∈ head, isAlphanumeric c = true) (absent : Bool)
    (rest : Text) :
    headAndItems absent (head ++ rest) =
      (head ++ (headAndItems absent rest).1, (headAndItems absent rest).2) := by
  induction head with
  | nil => rfl
  | cons c more ih =>
    rw [List.cons_append, headAndItems, if_pos (h c List.mem_cons_self),
      ih fun d hd ↦ h d (List.mem_cons_of_mem _ hd)]
    rfl

theorem isAlphanumeric_sign {sign : Char} (h : sign = '+' ∨ sign = '-') :
    isAlphanumeric sign = false := by
  rcases h with rfl | rfl <;> rfl

/-- Letters and numbers are no signs. -/
theorem signAfter_of_isAlphanumeric {absent : Bool} {c : Char} (h : isAlphanumeric c = true) :
    signAfter absent c = absent := by
  have hne : ∀ sign, sign = '+' ∨ sign = '-' → c ≠ sign := by
    rintro sign hsign rfl
    exact absurd h ((isAlphanumeric_sign hsign).symm ▸ Bool.false_ne_true)
  rw [signAfter, if_neg (hne '+' (Or.inl rfl)), if_neg (hne '-' (Or.inr rfl))]

theorem headAndItems_sign {c : Char} (h : isAlphanumeric c = false) (absent : Bool) (rest : Text) :
    headAndItems absent (c :: rest) =
      ([], if (headAndItems (signAfter absent c) rest).1.isEmpty
        then (headAndItems (signAfter absent c) rest).2
        else ⟨(headAndItems (signAfter absent c) rest).1, signAfter absent c⟩ ::
          (headAndItems (signAfter absent c) rest).2) := by
  rw [headAndItems, h]
  rfl

/-- A sign puts an end to what stands in front of it, and nothing of that matters behind it. -/
theorem headAndItems_append_sign {sign : Char} (h : sign = '+' ∨ sign = '-') (absent : Bool)
    (front back : Text) :
    headAndItems absent (front ++ sign :: back) =
      ((headAndItems absent front).1,
        (headAndItems absent front).2 ++ (headAndItems false (sign :: back)).2) := by
  have hsign : isAlphanumeric sign = false := isAlphanumeric_sign h
  induction front generalizing absent with
  | nil =>
    have hafter : signAfter absent sign = signAfter false sign := by
      rcases h with rfl | rfl <;> rfl
    rw [List.nil_append, headAndItems_sign hsign, headAndItems_sign hsign, hafter]
    rfl
  | cons c rest ih =>
    rw [List.cons_append]
    cases hc : isAlphanumeric c with
    | true => rw [headAndItems, if_pos hc, headAndItems, if_pos hc, ih]
    | false =>
      rw [headAndItems_sign hc, headAndItems_sign hc, ih]
      dsimp only
      split_ifs <;> rfl

/-- A row of items is read from its written form, whatever sign stood before it. -/
theorem headAndItems_written {row : List Item} (h : ∀ item ∈ row, IsName item.text)
    (absent : Bool) : headAndItems absent (row.flatMap Item.written) = ([], row) := by
  induction row generalizing absent with
  | nil => rfl
  | cons item rest ih =>
    obtain ⟨hne, hname⟩ := h item List.mem_cons_self
    have hrest := ih (fun other hother ↦ h other (List.mem_cons_of_mem _ hother)) item.absent
    have hsign : isAlphanumeric (if item.absent then '-' else '+') = false := by
      cases item.absent <;> rfl
    have hafter : signAfter absent (if item.absent then '-' else '+') = item.absent := by
      cases item.absent <;> rfl
    rw [List.flatMap_cons, Item.written, List.cons_append, headAndItems_sign hsign, hafter,
      headAndItems_append hname, hrest, List.append_nil]
    simp [hne]

/-- The items in front of a sign and those that begin with it. -/
theorem items_append_sign {sign : Char} (h : sign = '+' ∨ sign = '-') {front : Text}
    (hfront : front ≠ []) (back : Text) :
    items (front ++ sign :: back) = items front ++ (headAndItems false (sign :: back)).2 := by
  obtain ⟨c, rest, rfl⟩ := List.exists_cons_of_ne_nil hfront
  rw [items, items, headAndItems_append_sign h]
  dsimp only
  split_ifs <;> rfl

/-- A further item is read behind those of a descriptor. -/
theorem items_append_item {front : Text} (hfront : front ≠ []) {item : Item}
    (h : IsName item.text) : items (front ++ item.written) = items front ++ [item] := by
  have hsign : ∀ absent : Bool, (if absent then '-' else '+') = '+' ∨
      (if absent then '-' else '+') = '-' := by decide
  have hnames : ∀ other ∈ [item], IsName other.text :=
    fun other hother ↦ List.mem_singleton.mp hother ▸ h
  have hitem := headAndItems_written hnames false
  rw [List.flatMap_singleton, Item.written] at hitem
  rw [Item.written, items_append_sign (hsign item.absent) hfront, hitem]

/-- A name, or any one character, and a row of items behind it are read as written. -/
theorem items_append_written {first : Text} (hfirst : IsName first ∨ ∃ c, first = [c])
    {row : List Item} (h : ∀ item ∈ row, IsName item.text) :
    items (first ++ row.flatMap Item.written) = ⟨first, false⟩ :: row := by
  rcases hfirst with hname | ⟨c, rfl⟩
  · rw [items, headAndItems_append hname.2, headAndItems_written h, List.append_nil]
    simp [hname.1]
  · cases hc : isAlphanumeric c with
    | true =>
      have hname : ∀ d ∈ [c], isAlphanumeric d = true := fun d hd ↦ List.mem_singleton.mp hd ▸ hc
      rw [items, headAndItems_append hname, headAndItems_written h]
      rfl
    | false =>
      rw [items, List.singleton_append, headAndItems_sign hc, headAndItems_written h]
      rfl

/-- The characters of an item are from the text, and letters and numbers unless it is a single
one. -/
theorem mem_headAndItems {absent : Bool} {text : Text} :
    (∀ c ∈ (headAndItems absent text).1, c ∈ text ∧ isAlphanumeric c = true) ∧
      ∀ item ∈ (headAndItems absent text).2, ∀ c ∈ item.text,
        c ∈ text ∧ isAlphanumeric c = true := by
  induction text generalizing absent with
  | nil => simp [headAndItems]
  | cons c rest ih =>
    have hkeep : ∀ d, d ∈ rest ∧ isAlphanumeric d = true →
        d ∈ c :: rest ∧ isAlphanumeric d = true := fun d hd ↦ ⟨List.mem_cons_of_mem _ hd.1, hd.2⟩
    cases hc : isAlphanumeric c with
    | true =>
      obtain ⟨hhead, hitems⟩ := @ih absent
      rw [headAndItems, if_pos hc]
      refine ⟨fun d hd ↦ ?_, fun item hitem d hd ↦ hkeep d (hitems item hitem d hd)⟩
      rcases List.mem_cons.mp hd with rfl | hd
      · exact ⟨List.mem_cons_self, hc⟩
      · exact hkeep d (hhead d hd)
    | false =>
      obtain ⟨hhead, hitems⟩ := @ih (signAfter absent c)
      rw [headAndItems_sign hc]
      refine ⟨by simp, fun item hitem d hd ↦ hkeep d ?_⟩
      dsimp only at hitem
      split_ifs at hitem
      · exact hitems item hitem d hd
      · rcases List.mem_cons.mp hitem with rfl | hitem
        · exact hhead d hd
        · exact hitems item hitem d hd

/-- The characters of an item are from the descriptor, and letters and numbers unless it is the
first character on its own. -/
theorem mem_items {descriptor : Text} {item : Item} (h : item ∈ items descriptor) :
    (∀ c ∈ item.text, c ∈ descriptor) ∧
      ((∃ c, item.text = [c] ∧ descriptor.head? = some c) ∨
        ∀ c ∈ item.text, isAlphanumeric c = true) := by
  obtain ⟨hhead, hitems⟩ := @mem_headAndItems false descriptor
  unfold items at h
  dsimp only at h
  split_ifs at h with hempty
  · cases descriptor with
    | nil => simp [headAndItems] at h
    | cons c rest =>
      rcases List.mem_cons.mp h with rfl | h
      · exact ⟨by simp, Or.inl ⟨c, rfl, rfl⟩⟩
      · exact ⟨fun d hd ↦ (hitems item h d hd).1, Or.inr fun d hd ↦ (hitems item h d hd).2⟩
  · rcases List.mem_cons.mp h with rfl | h
    · exact ⟨fun d hd ↦ (hhead d hd).1, Or.inr fun d hd ↦ (hhead d hd).2⟩
    · exact ⟨fun d hd ↦ (hitems item h d hd).1, Or.inr fun d hd ↦ (hitems item h d hd).2⟩

/-- A comma stands in an item on its own or not at all. -/
theorem comma_of_mem_items {descriptor : Text} {item : Item} (h : item ∈ items descriptor) :
    item.text = [','] ∨ ',' ∉ item.text := by
  rcases (mem_items h).2 with ⟨c, hc, -⟩ | hall
  · rcases eq_or_ne c ',' with rfl | hne
    · exact Or.inl hc
    · exact Or.inr fun hin ↦ hne (List.mem_singleton.mp (hc ▸ hin)).symm
  · exact Or.inr fun hin ↦ absurd (hall ',' hin) (by decide)

/-! ### Modifiers and modes -/

theorem meaning_modifier (m : Modifier) : meaning (lower m.text) = .modifier m := by
  cases m <;> rfl

theorem meaning_mode (m : Mode) : meaning (lower m.text) = .mode m := by
  cases m <;> rfl

/-- The item that tells of one modifier or mode, if the mask has its bit. -/
def flagItem (set mask bit : Nat) (name : Text) : List Item :=
  if Condition.hasBit mask bit then [⟨lower name, !Condition.hasBit set bit⟩] else []

/-- The items that tell of the modifiers and modes of a condition. -/
def flagItems (condition : Condition) : List Item :=
  (Modifier.all.flatMap fun m ↦
      flagItem condition.modifiers condition.modifierMask m.bit m.text)
    ++ Mode.all.flatMap fun m ↦ flagItem condition.modes condition.modeMask m.bit m.text

theorem foldl_flagItem_modifier (m : Modifier) (set mask : Nat) (condition : Condition) :
    (flagItem set mask m.bit m.text).foldl apply condition =
      { condition with
        modifiers := condition.modifiers ||| set &&& mask &&& m.bit
        modifierMask := condition.modifierMask ||| mask &&& m.bit } := by
  have hset := Condition.and_bit m.exists_bit set
  have hmask := Condition.and_bit m.exists_bit mask
  rw [flagItem, Nat.and_assoc, hmask]
  cases Condition.hasBit mask m.bit with
  | false => simp
  | true =>
    simp only [if_true, List.foldl_cons, List.foldl_nil, apply, meaning_modifier, hset]
    cases Condition.hasBit set m.bit <;> simp

theorem foldl_flagItem_mode (m : Mode) (set mask : Nat) (condition : Condition) :
    (flagItem set mask m.bit m.text).foldl apply condition =
      { condition with
        modes := condition.modes ||| set &&& mask &&& m.bit
        modeMask := condition.modeMask ||| mask &&& m.bit } := by
  have hset := Condition.and_bit m.exists_bit set
  have hmask := Condition.and_bit m.exists_bit mask
  rw [flagItem, Nat.and_assoc, hmask]
  cases Condition.hasBit mask m.bit with
  | false => simp
  | true =>
    simp only [if_true, List.foldl_cons, List.foldl_nil, apply, meaning_mode, hset]
    cases Condition.hasBit set m.bit <;> simp

theorem foldl_flagItems_modifier (modifiers : List Modifier) (set mask : Nat)
    (condition : Condition) :
    (modifiers.flatMap fun m ↦ flagItem set mask m.bit m.text).foldl apply condition =
      { condition with
        modifiers := condition.modifiers ||| set &&& mask &&& Modifier.bitsOf modifiers
        modifierMask := condition.modifierMask ||| mask &&& Modifier.bitsOf modifiers } := by
  induction modifiers generalizing condition with
  | nil => simp [Modifier.bitsOf]
  | cons m rest ih =>
    rw [List.flatMap_cons, List.foldl_append, foldl_flagItem_modifier, ih]
    simp [Modifier.bitsOf, Nat.and_or_distrib_left, Nat.or_assoc]

theorem foldl_flagItems_mode (modes : List Mode) (set mask : Nat) (condition : Condition) :
    (modes.flatMap fun m ↦ flagItem set mask m.bit m.text).foldl apply condition =
      { condition with
        modes := condition.modes ||| set &&& mask &&& Mode.bitsOf modes
        modeMask := condition.modeMask ||| mask &&& Mode.bitsOf modes } := by
  induction modes generalizing condition with
  | nil => simp [Mode.bitsOf]
  | cons m rest ih =>
    rw [List.flatMap_cons, List.foldl_append, foldl_flagItem_mode, ih]
    simp [Mode.bitsOf, Nat.and_or_distrib_left, Nat.or_assoc]

/-- The items of a condition with named bits give its masks, and of its sets what is in them. -/
theorem foldl_flagItems {condition : Condition} (h : condition.Named) (keyCode : Int) :
    (flagItems condition).foldl apply { keyCode := keyCode } =
      { keyCode := keyCode
        modifiers := condition.modifiers &&& condition.modifierMask
        modifierMask := condition.modifierMask
        modes := condition.modes &&& condition.modeMask
        modeMask := condition.modeMask } := by
  rw [flagItems, List.foldl_append, foldl_flagItems_modifier, foldl_flagItems_mode]
  simp only [Nat.zero_or, Nat.and_assoc, h.modifiers, h.modes]

/-! ### What descriptors give -/

theorem named_apply {condition : Condition} (h : condition.Named) (item : Item) :
    (apply condition item).Named := by
  unfold apply
  cases meaning item.text with
  | modifier m =>
    exact ⟨by rw [Nat.and_or_distrib_right, h.modifiers, m.bit_and_every], h.modes⟩
  | mode m => exact ⟨h.modifiers, by rw [Nat.and_or_distrib_right, h.modes, m.bit_and_every]⟩
  | key _ | unknown => exact ⟨h.modifiers, h.modes⟩

theorem within_apply {condition : Condition} (h : condition.Within) (item : Item) :
    (apply condition item).Within := by
  unfold apply
  cases meaning item.text with
  | modifier m =>
    refine ⟨?_, h.modes⟩
    cases item.absent with
    | true => exact Condition.and_or_of_and h.modifiers m.bit
    | false => exact Condition.or_and_or_of_and h.modifiers m.bit
  | mode m =>
    refine ⟨h.modifiers, ?_⟩
    cases item.absent with
    | true => exact Condition.and_or_of_and h.modes m.bit
    | false => exact Condition.or_and_or_of_and h.modes m.bit
  | key _ | unknown => exact ⟨h.modifiers, h.modes⟩

/-- What every item keeps holds of the condition of a descriptor. -/
theorem decode_induction {P : Condition → Prop} {initial : Condition} {descriptor : Text}
    (hinitial : P initial)
    (happly : ∀ condition, P condition → ∀ item ∈ items descriptor, P (apply condition item)) :
    P (decode descriptor initial).value := by
  unfold decode
  revert happly
  generalize items descriptor = row
  intro happly
  induction row generalizing initial with
  | nil => exact hinitial
  | cons item rest ih =>
    exact ih (happly initial hinitial item List.mem_cons_self)
      fun condition h other hother ↦ happly condition h other (List.mem_cons_of_mem _ hother)

/-- The masks of a descriptor have named bits alone. -/
theorem named_decode (descriptor : Text) : (decode descriptor {}).value.Named :=
  decode_induction ⟨rfl, rfl⟩ fun _ h item _ ↦ named_apply h item

/-- The sets of a descriptor lie within its masks. -/
theorem within_decode (descriptor : Text) : (decode descriptor {}).value.Within :=
  decode_induction ⟨rfl, rfl⟩ fun _ h item _ ↦ within_apply h item

/-- The key of a descriptor is one of its items' or unknown. -/
theorem keyCode_decode (descriptor : Text) :
    (decode descriptor {}).value.keyCode = Key.unknown ∨
      ∃ item ∈ items descriptor, ∃ code : Nat, meaning item.text = .key code ∧
        (decode descriptor {}).value.keyCode = code := by
  refine decode_induction (P := fun condition ↦ condition.keyCode = Key.unknown ∨
    ∃ item ∈ items descriptor, ∃ code : Nat, meaning item.text = .key code ∧
      condition.keyCode = code) (Or.inl rfl) fun condition h item hitem ↦ ?_
  unfold apply
  cases hmeaning : meaning item.text with
  | key code => exact Or.inr ⟨item, hitem, code, hmeaning, rfl⟩
  | modifier _ | mode _ | unknown => exact h

end Descriptor

end TermKeys
