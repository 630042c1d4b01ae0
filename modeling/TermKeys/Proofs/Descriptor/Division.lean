import TermKeys.Proofs.Descriptor
import TermKeys.Proofs.Unicode.Words

/-!
A further item at the end of a descriptor. If it names a modifier or a mode that the descriptor says
nothing of, the key presses that are accepted with it are those of the descriptor with, or without,
that modifier or mode (`accepts_apply_modifier` and `accepts_apply_mode`). So the two signs that the
item may have divide the key presses of the descriptor (`accepts_divided`). For the mode that tells
of any modifier this holds of key presses that do not name it themselves: what counts there are the
modifiers held.
-/

set_option autoImplicit false

namespace TermKeys

open Unicode

namespace Condition

variable {set mask bit : Nat}

/-! ### Single bits -/

theorem hasBit_two_pow (set k : Nat) : hasBit set (2 ^ k) = set.testBit k := by
  rw [hasBit, Nat.and_two_pow]
  cases set.testBit k <;> simp

/-- Two sets agree within a mask if they have the same of its bits. -/
theorem and_eq_and_iff {press : Nat} :
    press &&& mask = set &&& mask ↔
      ∀ i, mask.testBit i = true → press.testBit i = set.testBit i := by
  constructor
  · intro h i hi
    have htest := congrArg (fun n ↦ n.testBit i) h
    simpa only [Nat.testBit_and, hi, Bool.and_true] using htest
  · intro h
    refine Nat.eq_of_testBit_eq fun i ↦ ?_
    rw [Nat.testBit_and, Nat.testBit_and]
    cases hi : mask.testBit i with
    | false => rw [Bool.and_false, Bool.and_false]
    | true => rw [h i hi]

theorem hasBit_eq_false_of_and (hbit : ∃ k, bit = 2 ^ k) (h : set &&& mask = set)
    (hmask : hasBit mask bit = false) : hasBit set bit = false := by
  obtain ⟨k, rfl⟩ := hbit
  rw [hasBit_two_pow] at hmask ⊢
  rw [← h, Nat.testBit_and, hmask, Bool.and_false]

/-- A set with a bit, or without it if it has to be absent. -/
def withBit (absent : Bool) (set bit : Nat) : Nat := if absent then set else set ||| bit

theorem testBit_withBit (absent : Bool) (set k i : Nat) :
    (withBit absent set (2 ^ k)).testBit i = (set.testBit i || (!absent && decide (k = i))) := by
  unfold withBit
  cases absent with
  | true => simp
  | false => simp [Nat.testBit_or, Nat.testBit_two_pow]

theorem hasBit_withBit {other : Nat} (hbit : ∃ k, bit = 2 ^ k) (hother : ∃ k, other = 2 ^ k)
    (absent : Bool) (set : Nat) :
    hasBit (withBit absent set bit) other =
      (hasBit set other || (!absent && decide (bit = other))) := by
  obtain ⟨k, rfl⟩ := hbit
  obtain ⟨j, rfl⟩ := hother
  rw [hasBit_two_pow, hasBit_two_pow, testBit_withBit]
  simp only [Nat.pow_right_injective (Nat.le_refl 2) |>.eq_iff]

/-- A mask with one more bit asks for one thing more. -/
theorem and_eq_withBit_and_iff (hbit : ∃ k, bit = 2 ^ k) (hset : set &&& mask = set)
    (hmask : hasBit mask bit = false) (press : Nat) (absent : Bool) :
    press &&& (mask ||| bit) = withBit absent set bit &&& (mask ||| bit) ↔
      press &&& mask = set &&& mask ∧ hasBit press bit = !absent := by
  have hfree := hasBit_eq_false_of_and hbit hset hmask
  obtain ⟨k, rfl⟩ := hbit
  rw [hasBit_two_pow] at hmask hfree
  rw [and_eq_and_iff, and_eq_and_iff, hasBit_two_pow]
  simp only [testBit_withBit, Nat.testBit_or, Nat.testBit_two_pow, Bool.or_eq_true,
    decide_eq_true_eq]
  constructor
  · intro h
    refine ⟨fun i hi ↦ ?_, ?_⟩
    · have hne : k ≠ i := by
        rintro rfl
        rw [hmask] at hi
        exact absurd hi Bool.false_ne_true
      simpa [hne] using h i (Or.inl hi)
    · simpa [hfree] using h k (Or.inr rfl)
  · rintro ⟨h, hpress⟩ i hi
    by_cases hk : k = i
    · subst hk
      simp [hfree, hpress]
    · simpa [hk] using h i (hi.resolve_right hk)

/-- A key press tells of any modifier if one is held or it says so itself. -/
theorem hasBit_pressModes_any (press : KeyPress) :
    hasBit (pressModes press) Mode.anyModifier.bit =
      (anyModifierHeld press.modifiers || hasBit press.modes Mode.anyModifier.bit) := by
  unfold pressModes
  split_ifs with hheld
  · have hadded := hasBit_withBit Mode.anyModifier.exists_bit Mode.anyModifier.exists_bit false
      press.modes
    rw [withBit, if_neg Bool.false_ne_true] at hadded
    rw [hadded, hheld]
    simp
  · rw [Bool.not_eq_true] at hheld
    rw [hheld, Bool.false_or]

theorem accepts_iff {condition : Condition} {press : KeyPress} :
    condition.accepts press = true ↔
      condition.keyCode = press.keyCode ∧
        press.modifiers &&& condition.modifierMask =
          condition.modifiers &&& condition.modifierMask ∧
        pressModes press &&& condition.modeMask = condition.modes &&& condition.modeMask ∧
        (hasBit condition.modeMask Mode.anyModifier.bit = true →
          hasBit condition.modes Mode.anyModifier.bit = anyModifierHeld press.modifiers) := by
  simp only [accepts, Bool.and_eq_true, Bool.or_eq_true, beq_iff_eq, decide_eq_true_eq,
    Bool.not_eq_true', and_assoc]
  cases hasBit condition.modeMask Mode.anyModifier.bit <;> simp

end Condition

namespace Descriptor

open Condition

/-! ### Names of modifiers and modes -/

/-- A name that is looked up without regard to case among names of small letters. -/
theorem isName_of_lookup {α : Type} {names : List (Text × α)}
    (hnames :
      (names.all fun entry ↦ !entry.1.isEmpty && entry.1.all fun d ↦ IsSmall d.toNat) = true)
    {name : Text} {found : α} (h : names.lookup (lower name) = some found) : IsName name := by
  have hentry := List.all_eq_true.mp hnames (lower name, found) (mem_of_lookup h)
  obtain ⟨hnotEmpty, hall⟩ := Bool.and_eq_true_iff.mp hentry
  have hne : lower name ≠ [] := by simpa using hnotEmpty
  have hsmall : ∀ d ∈ lower name, IsSmall d.toNat := by simpa using hall
  refine ⟨?_, fun c hc ↦ isAlphanumeric_of_lower hsmall hc⟩
  rintro rfl
  exact hne rfl

theorem isName_of_modifier {name : Text} {m : Modifier} (h : Modifier.named? name = some m) :
    IsName name :=
  isName_of_lookup rfl h

theorem isName_of_mode {name : Text} {m : Mode} (h : Mode.named? name = some m) :
    IsName name :=
  isName_of_lookup rfl h

theorem meaning_of_modifier {name : Text} {m : Modifier} (h : Modifier.named? name = some m) :
    meaning name = .modifier m := by
  rw [meaning, h]

/-- No name of a mode is one of a modifier. -/
theorem meaning_of_mode {name : Text} {m : Mode} (h : Mode.named? name = some m) :
    meaning name = .mode m := by
  have hall : ∀ entry ∈ Mode.names, Modifier.names.lookup entry.1 = none := by decide
  have hnone : Modifier.named? name = none := hall (lower name, m) (mem_of_lookup h)
  rw [meaning, hnone]
  dsimp only
  rw [h]

/-! ### One more item -/

variable {condition : Condition} {name : Text}

theorem apply_modifier {m : Modifier} (h : meaning name = .modifier m) (condition : Condition)
    (absent : Bool) :
    apply condition ⟨name, absent⟩ =
      { condition with
        modifiers := withBit absent condition.modifiers m.bit
        modifierMask := condition.modifierMask ||| m.bit } := by
  rw [apply, h]
  rfl

theorem apply_mode {m : Mode} (h : meaning name = .mode m) (condition : Condition)
    (absent : Bool) :
    apply condition ⟨name, absent⟩ =
      { condition with
        modes := withBit absent condition.modes m.bit
        modeMask := condition.modeMask ||| m.bit } := by
  rw [apply, h]
  rfl

/-- A further modifier is required or forbidden in what is pressed. -/
theorem accepts_apply_modifier (hwithin : condition.Within) {m : Modifier}
    (hname : meaning name = .modifier m) (hfree : hasBit condition.modifierMask m.bit = false)
    (press : KeyPress) (absent : Bool) :
    (apply condition ⟨name, absent⟩).accepts press = true ↔
      condition.accepts press = true ∧ hasBit press.modifiers m.bit = !absent := by
  have hmodifiers := and_eq_withBit_and_iff m.exists_bit hwithin.modifiers hfree press.modifiers
    absent
  rw [apply_modifier hname, accepts_iff, accepts_iff]
  dsimp only
  rw [hmodifiers]
  tauto

/-- A further mode is required or forbidden while the key is pressed. -/
theorem accepts_apply_mode (hwithin : condition.Within) {m : Mode}
    (hname : meaning name = .mode m) (hfree : hasBit condition.modeMask m.bit = false)
    {press : KeyPress}
    (hpress : m = .anyModifier → hasBit press.modes Mode.anyModifier.bit = false) (absent : Bool) :
    (apply condition ⟨name, absent⟩).accepts press = true ↔
      condition.accepts press = true ∧ hasBit (pressModes press) m.bit = !absent := by
  have hmodes := and_eq_withBit_and_iff m.exists_bit hwithin.modes hfree (pressModes press) absent
  rw [apply_mode hname, accepts_iff, accepts_iff]
  dsimp only
  rw [hmodes]
  have hany : hasBit (pressModes press) m.bit = !absent →
      ((hasBit (condition.modeMask ||| m.bit) Mode.anyModifier.bit = true →
          hasBit (withBit absent condition.modes m.bit) Mode.anyModifier.bit =
            anyModifierHeld press.modifiers) ↔
        (hasBit condition.modeMask Mode.anyModifier.bit = true →
          hasBit condition.modes Mode.anyModifier.bit = anyModifierHeld press.modifiers)) := by
    intro hheld
    have hmask := hasBit_withBit m.exists_bit Mode.anyModifier.exists_bit false condition.modeMask
    rw [withBit, if_neg Bool.false_ne_true] at hmask
    rw [hmask, hasBit_withBit m.exists_bit Mode.anyModifier.exists_bit]
    by_cases hm : m = .anyModifier
    · subst hm
      have hset := hasBit_eq_false_of_and Mode.anyModifier.exists_bit hwithin.modes hfree
      rw [hasBit_pressModes_any, hpress rfl, Bool.or_false] at hheld
      simp [hset, hfree, hheld]
    · have hbit : m.bit ≠ Mode.anyModifier.bit := by
        revert hm
        cases m <;> decide
      simp [hbit]
  tauto

/-! ### Both signs -/

/-- Whether a name is that of a modifier or a mode that a condition says nothing of. -/
def LeavesOpen (condition : Condition) (name : Text) : Prop :=
  (∃ m, Modifier.named? name = some m ∧ hasBit condition.modifierMask m.bit = false) ∨
    ∃ m, Mode.named? name = some m ∧ hasBit condition.modeMask m.bit = false

/-- A descriptor with a further item and a sign in front of it. -/
theorem decode_append_item {descriptor : Text} (hne : descriptor ≠ []) (hname : IsName name)
    (absent : Bool) (initial : Condition) :
    (decode (descriptor ++ (if absent then '-' else '+') :: name) initial).value =
      apply (decode descriptor initial).value ⟨name, absent⟩ := by
  have htext : IsName (⟨name, absent⟩ : Item).text := hname
  have hitems := items_append_item hne htext
  rw [Item.written] at hitems
  dsimp only at hitems
  rw [decode, decode, hitems, List.foldl_append]
  rfl

/-- A further item divides the key presses of a descriptor. If the descriptor says nothing of the
modifier or mode that the item names, each key press is accepted with exactly one of the two signs
if it is accepted without the item, and otherwise with none. -/
theorem accepts_divided {descriptor name : Text} (hne : descriptor ≠ [])
    (hopen : LeavesOpen (decode descriptor {}).value name) (press : KeyPress)
    (hpress : Mode.named? name = some .anyModifier →
      hasBit press.modes Mode.anyModifier.bit = false) :
    let plain := (decode descriptor {}).value
    let required := (decode (descriptor ++ '+' :: name) {}).value
    let forbidden := (decode (descriptor ++ '-' :: name) {}).value
    (plain.accepts press = true ↔ required.accepts press = true ∨ forbidden.accepts press = true) ∧
      ¬ (required.accepts press = true ∧ forbidden.accepts press = true) := by
  intro plain required forbidden
  have hwithin : plain.Within := within_decode descriptor
  obtain ⟨hname, held, hheld⟩ : IsName name ∧ ∃ held : Bool, ∀ absent,
      (apply plain ⟨name, absent⟩).accepts press = true ↔
        plain.accepts press = true ∧ held = !absent := by
    rcases hopen with ⟨m, hnamed, hfree⟩ | ⟨m, hnamed, hfree⟩
    · exact ⟨isName_of_modifier hnamed, _,
        accepts_apply_modifier hwithin (meaning_of_modifier hnamed) hfree press⟩
    · exact ⟨isName_of_mode hnamed, _,
        accepts_apply_mode hwithin (meaning_of_mode hnamed) hfree fun hm ↦ hpress (hm ▸ hnamed)⟩
  have hrequired : required = apply plain ⟨name, false⟩ := decode_append_item hne hname false {}
  have hforbidden : forbidden = apply plain ⟨name, true⟩ := decode_append_item hne hname true {}
  rw [hrequired, hforbidden, hheld, hheld]
  cases held <;> simp

/-- With a shift key held a further condition on any modifier accepts just when it asks for one. -/
theorem accepts_divided_any :
    let press : KeyPress := ⟨0x1000010, Modifier.shift.bit, Mode.ansi.bit⟩
    (decode "home-alt+ansi".toList {}).value.accepts press = true ∧
      (decode "home-alt+ansi+AnyMod".toList {}).value.accepts press = true ∧
      (decode "home-alt+ansi-AnyMod".toList {}).value.accepts press = false := by
  intro press
  have hopen : LeavesOpen (decode "home-alt+ansi".toList {}).value "AnyMod".toList :=
    Or.inr ⟨.anyModifier, by decide +kernel⟩
  obtain ⟨hplain, hboth⟩ := accepts_divided (by decide) hopen press (by decide +kernel)
  have hrequired : (decode "home-alt+ansi+AnyMod".toList {}).value.accepts press = true := by
    decide +kernel
  exact ⟨hplain.mpr (Or.inl hrequired), hrequired,
    Bool.eq_false_iff.mpr fun hforbidden ↦ hboth ⟨hrequired, hforbidden⟩⟩

end Descriptor

end TermKeys
