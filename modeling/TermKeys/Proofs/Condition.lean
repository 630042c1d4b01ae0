import TermKeys.Proofs.Key
import TermKeys.Proofs.Layout.Loading
import TermKeys.Proofs.Reader.Document

/-!
Conditions written and read back. What a condition says is what its sets have within its masks
(`Condition.visible`); the key presses that it accepts depend on nothing else (`accepts_visible`),
and its written form gives exactly that again (`Written.decode_eq`). So it does in a binding made of
that form (`exists_reread`).
-/

set_option autoImplicit false

namespace TermKeys

open Unicode

namespace Condition

/-! ### What a condition says -/

/-- A condition without what its masks hide. -/
def visible (condition : Condition) : Condition :=
  { condition with
    modifiers := condition.modifiers &&& condition.modifierMask
    modes := condition.modes &&& condition.modeMask }

theorem visible_of_within {condition : Condition} (h : condition.Within) :
    condition.visible = condition := by
  rw [visible, h.modifiers, h.modes]

/-- What a mask hides does not matter where the mask applies. -/
theorem hasBit_and {mask bit : Nat} (hbit : ∃ k, bit = 2 ^ k) (hmask : hasBit mask bit = true)
    (set : Nat) : hasBit (set &&& mask) bit = hasBit set bit := by
  have hand := and_bit hbit mask
  rw [hmask, if_pos rfl] at hand
  rw [hasBit, Nat.and_assoc, hand, ← hasBit]

/-- The key presses that a condition accepts are those of what it says. -/
theorem accepts_visible (condition : Condition) (press : KeyPress) :
    condition.visible.accepts press = condition.accepts press := by
  have hmodes : hasBit condition.modeMask Mode.anyModifier.bit = true →
      hasBit (condition.modes &&& condition.modeMask) Mode.anyModifier.bit =
        hasBit condition.modes Mode.anyModifier.bit :=
    fun h ↦ hasBit_and Mode.anyModifier.exists_bit h condition.modes
  simp only [accepts, visible, Nat.and_assoc, Nat.and_self]
  cases hmask : hasBit condition.modeMask Mode.anyModifier.bit with
  | false => rfl
  | true =>
    rw [hmodes hmask]
    rfl

/-! ### Written conditions -/

/-- A character in ASCII that may stand in a written condition. -/
def IsPlainChar (c : Char) : Prop := c.toNat < 0x80 ∧ isBlank c = false ∧ c ∉ Key.marks

theorem isPlainChar_modifier (m : Modifier) {c : Char} (hc : c ∈ m.text) : IsPlainChar c := by
  have hall : ∀ c ∈ m.text, c.toNat < 0x80 ∧ isBlank c = false ∧ c ∉ Key.marks :=
    List.all_iff_forall_prop.mp (by cases m <;> decide)
  exact hall c hc

theorem isPlainChar_mode (m : Mode) {c : Char} (hc : c ∈ m.text) : IsPlainChar c := by
  have hall : ∀ c ∈ m.text, c.toNat < 0x80 ∧ isBlank c = false ∧ c ∉ Key.marks :=
    List.all_iff_forall_prop.mp (by cases m <;> decide)
  exact hall c hc

theorem mem_flagText {set mask bit : Nat} {name : Text} {c : Char}
    (h : c ∈ flagText set mask bit name) : c = '+' ∨ c = '-' ∨ c ∈ name := by
  unfold flagText at h
  split_ifs at h
  · exact (List.mem_cons.mp h).imp_right Or.inr
  · exact Or.inr (List.mem_cons.mp h)
  · simp at h

theorem isPlainChar_flagsText {condition : Condition} {c : Char} (h : c ∈ condition.flagsText) :
    IsPlainChar c := by
  have hplus : IsPlainChar '+' := ⟨by decide, by decide, by decide⟩
  have hminus : IsPlainChar '-' := ⟨by decide, by decide, by decide⟩
  rcases List.mem_append.mp h with h | h
  · obtain ⟨m, -, hc⟩ := List.mem_flatMap.mp h
    rcases mem_flagText hc with rfl | rfl | hc
    exacts [hplus, hminus, isPlainChar_modifier m hc]
  · obtain ⟨m, -, hc⟩ := List.mem_flatMap.mp h
    rcases mem_flagText hc with rfl | rfl | hc
    exacts [hplus, hminus, isPlainChar_mode m hc]

theorem map_flagText {name : Text} (h : ∀ c ∈ name, IsPlainChar c) (set mask bit : Nat) :
    (flagText set mask bit name).map lowerOne =
      (Descriptor.flagItem set mask bit name).flatMap Descriptor.Item.written := by
  have hplus : lowerOne '+' = '+' := by decide +kernel
  have hminus : lowerOne '-' = '-' := by decide +kernel
  rw [flagText, Descriptor.flagItem, lower, lowerFrom_ascii fun c hc ↦ (h c hc).1]
  cases hasBit mask bit with
  | false => rfl
  | true => cases hasBit set bit <;> simp [Descriptor.Item.written, hplus, hminus]

/-- The modifiers and modes of a condition are written as the items that tell of them. -/
theorem map_flagsText (condition : Condition) :
    condition.flagsText.map lowerOne =
      (Descriptor.flagItems condition).flatMap Descriptor.Item.written := by
  have hmodifiers : ∀ m : Modifier, (flagText condition.modifiers condition.modifierMask m.bit
      m.text).map lowerOne = (Descriptor.flagItem condition.modifiers condition.modifierMask m.bit
        m.text).flatMap Descriptor.Item.written :=
    fun m ↦ map_flagText (fun _ hc ↦ isPlainChar_modifier m hc) _ _ _
  have hmodes : ∀ m : Mode, (flagText condition.modes condition.modeMask m.bit m.text).map
      lowerOne = (Descriptor.flagItem condition.modes condition.modeMask m.bit m.text).flatMap
        Descriptor.Item.written :=
    fun m ↦ map_flagText (fun _ hc ↦ isPlainChar_mode m hc) _ _ _
  simp only [flagsText, Descriptor.flagItems, List.map_append, List.map_flatMap,
    List.flatMap_append, List.flatMap_assoc, hmodifiers, hmodes]

theorem text_of_mem_flagItem {set mask bit : Nat} {name : Text} {item : Descriptor.Item}
    (h : item ∈ Descriptor.flagItem set mask bit name) : item.text = lower name := by
  unfold Descriptor.flagItem at h
  split_ifs at h
  · rw [List.mem_singleton.mp h]
  · simp at h

theorem isName_of_mem_flagItems {condition : Condition} {item : Descriptor.Item}
    (h : item ∈ Descriptor.flagItems condition) : Descriptor.IsName item.text := by
  have hmodifier : ∀ m : Modifier, Descriptor.IsName (lower m.text) := by
    intro m
    refine ⟨?_, List.all_iff_forall_prop.mp ?_⟩ <;> cases m <;> decide +kernel
  have hmode : ∀ m : Mode, Descriptor.IsName (lower m.text) := by
    intro m
    refine ⟨?_, List.all_iff_forall_prop.mp ?_⟩ <;> cases m <;> decide +kernel
  rcases List.mem_append.mp h with h | h
  · obtain ⟨m, -, hitem⟩ := List.mem_flatMap.mp h
    exact text_of_mem_flagItem hitem ▸ hmodifier m
  · obtain ⟨m, -, hitem⟩ := List.mem_flatMap.mp h
    exact text_of_mem_flagItem hitem ▸ hmode m

/-- A text that may stand in a line as a condition, in one word. -/
structure IsWord (text : Text) : Prop where
  ne_nil : text ≠ []
  plain : ∀ c ∈ text, isBlank c = false ∧ c ∉ Key.marks

theorem IsWord.isCondition {text : Text} (h : IsWord text) : Line.IsCondition text where
  exists_not_blank := by
    obtain ⟨first, rest, rfl⟩ := List.exists_cons_of_ne_nil h.ne_nil
    exact ⟨first, List.mem_cons_self, (h.plain first List.mem_cons_self).1⟩
  quote_not_mem hmem := (h.plain _ hmem).2 (by decide)
  hash_not_mem hmem := (h.plain _ hmem).2 (by decide)
  colon_not_mem hmem := (h.plain _ hmem).2 (by decide)

theorem IsWord.filter_eq {text : Text} (h : IsWord text) :
    (text.filter fun c ↦ !isBlank c) = text :=
  List.filter_eq_self.mpr fun c hc ↦ by simp [(h.plain c hc).1]

/-- A condition in one word is read from its line as it is. -/
theorem IsWord.read_keyLine {text rest : Text} (h : IsWord text) {action : Action}
    (hrest : Text.words (Line.dropComment rest) ≠ [])
    (haction : Line.action? (' ' :: Text.plain (Line.dropComment rest)) = some action) :
    Line.read ("key ".toList ++ text ++ " : ".toList ++ rest) = .key text action := by
  rw [Line.read_keyLine h.isCondition hrest haction, h.filter_eq]

theorem isWord_append_flagsText {name : Text} (h : IsWord name) (condition : Condition) :
    IsWord (name ++ condition.flagsText) where
  ne_nil := List.append_ne_nil_of_left_ne_nil h.ne_nil _
  plain c hc := (List.mem_append.mp hc).elim (h.plain c) fun hc ↦ (isPlainChar_flagsText hc).2

/-- The written form of a condition is that of its key with the modifiers and modes behind it. -/
theorem text_eq_ok_iff {condition : Condition} {written : Text} :
    condition.text = .ok written ↔
      ∃ key, Key.text condition.keyCode = .ok key ∧ written = key ++ condition.flagsText := by
  constructor
  · intro h
    obtain ⟨points, hpoints, h⟩ := bind_eq_ok_iff.mp h
    obtain ⟨name, hname, rfl⟩ := map_eq_ok_iff.mp hpoints
    obtain ⟨key, flags, hkey, hflags, rfl⟩ := Points.characters_append_eq_ok_iff.mp h
    rw [Points.characters_points] at hflags
    exact ⟨key, bind_eq_ok_iff.mpr ⟨name, hname, hkey⟩, by rw [Except.ok.inj hflags]⟩
  · rintro ⟨key, hkey, rfl⟩
    rw [text, points, Key.text_eq_ok_iff.mp hkey, Except.map, ← Text.points_append]
    exact Points.characters_points _

/-- A written form of a condition from which it is read. -/
structure Written (condition : Condition) (written : Text) : Prop where
  text_eq : condition.text = .ok written
  isWord : IsWord written
  decode_eq : (Descriptor.decode (lower written) {}).value = condition.visible

/-- A condition on a key that can be read has a written form, and is read from it. -/
theorem exists_written {condition : Condition} (hkey : Key.Readable condition.keyCode)
    (hne : condition.keyCode ≠ 0) (hnamed : condition.Named) :
    ∃ written, condition.Written written := by
  obtain ⟨name, item, hspells⟩ := Key.exists_spells hkey hne
  refine ⟨name ++ condition.flagsText, ?_, ?_, ?_⟩
  · exact text_eq_ok_iff.mpr ⟨name, hspells.text_eq, rfl⟩
  · exact isWord_append_flagsText ⟨hspells.ne_nil, hspells.plain⟩ condition
  · rw [hspells.lower_append _ fun c hc ↦ (isPlainChar_flagsText hc).1, map_flagsText,
      Descriptor.decode, Descriptor.items_append_written hspells.item_eq
        fun item hitem ↦ isName_of_mem_flagItems hitem, List.foldl_cons, hspells.apply_eq]
    exact Descriptor.foldl_flagItems hnamed condition.keyCode

/-- A condition on the key of the null character is written too, as the number of that key. -/
theorem exists_text_of_zero {condition : Condition} (h : condition.keyCode = 0) :
    ∃ written, condition.text = .ok written ∧ IsWord written := by
  refine ⟨"0x0".toList ++ condition.flagsText, ?_,
    isWord_append_flagsText ⟨by decide, List.all_iff_forall_prop.mp (by decide)⟩ condition⟩
  have hzero : Key.text 0 = .ok "0x0".toList := by decide +kernel
  exact text_eq_ok_iff.mpr ⟨_, h ▸ hzero, rfl⟩

end Condition

/-! ### Conditions of bindings that are read -/

theorem Reader.toCondition_of_bindingOf {settings : Settings} {descriptor : Text} {action : Action}
    {binding : Binding} (h : (bindingOf settings descriptor action).value = .ok binding) :
    binding.toCondition = (Descriptor.decode (lower descriptor) {}).value := by
  cases action with
  | send text =>
    simp only [bindingOf, Noted.bind] at h
    cases hbytes : Encoding.encodeAs settings.outputEncoding text with
    | error fault =>
      rw [hbytes] at h
      cases h
    | ok bytes =>
      rw [hbytes] at h
      rw [← Except.ok.inj h]
  | command word =>
    simp only [bindingOf, Noted.bind, Noted.map] at h
    rw [← Except.ok.inj h]

/-- The condition of a binding that is read is that of a descriptor in a key line. -/
theorem Binding.IsRead.exists_line {binding : Binding} (h : binding.IsRead) :
    ∃ line descriptor action, Line.read line = .key descriptor action ∧
      binding.toCondition = (Descriptor.decode (lower descriptor) {}).value := by
  obtain ⟨settings, lines, reader, hstart, hyields⟩ := h
  obtain ⟨raw, -, hentry⟩ := Reader.exists_line_of_yields hstart hyields
  unfold Reader.entryOf? at hentry
  split at hentry
  · simp at hentry
  · next line hdecode =>
    split at hentry
    · next descriptor action hread =>
      exact ⟨line, descriptor, action, hread,
        Reader.toCondition_of_bindingOf (Option.some.inj hentry)⟩
    · simp at hentry

theorem Binding.IsRead.named {binding : Binding} (h : binding.IsRead) :
    binding.toCondition.Named := by
  obtain ⟨-, descriptor, -, -, heq⟩ := h.exists_line
  exact heq ▸ Descriptor.named_decode _

theorem Binding.IsRead.within {binding : Binding} (h : binding.IsRead) :
    binding.toCondition.Within := by
  obtain ⟨-, descriptor, -, -, heq⟩ := h.exists_line
  exact heq ▸ Descriptor.within_decode _

theorem Line.readable_of_read {line descriptor : Text} {action : Action}
    (h : Line.read line = .key descriptor action) :
    Key.Readable (Descriptor.decode (lower descriptor) {}).value.keyCode :=
  Key.readable_decode fun _ hc ↦ ⟨folded_of_mem_lower hc,
    isBlank_of_mem_lower (fun _ hd ↦ (Line.mem_of_mem_descriptor h hd).2) hc⟩

theorem Binding.IsRead.readable {binding : Binding} (h : binding.IsRead) :
    Key.Readable binding.keyCode := by
  obtain ⟨line, descriptor, action, hread, heq⟩ := h.exists_line
  exact heq ▸ Line.readable_of_read hread

/-! ### Reading a written condition -/

/-- A written condition with a text behind it is read as what the condition says. -/
theorem Condition.Written.exists_ofParts {condition : Condition} {written : Text}
    (h : condition.Written written) (homes : Homes) :
    ∃ back, (Binding.ofParts written "x".toList (Settings.usual homes)).value = .ok back ∧
      back.toCondition = condition.visible := by
  have hpart : Binding.resultPart "x".toList = "\"x\"".toList := by decide +kernel
  have haction : Line.action? (' ' :: Text.plain (Line.dropComment "\"x\"".toList)) =
      some (.send "x".toList) := by decide
  have hread := h.isWord.read_keyLine (by decide) haction
  rw [← hpart] at hread
  have hwritten : '\n' ∉ written := fun hmem ↦ absurd (h.isWord.plain _ hmem).1 (by decide)
  exact ⟨_, value_ofParts_of_read (Settings.utf8_usual homes) hwritten (by decide) hread,
    h.decode_eq⟩

theorem Binding.exists_ofParts {binding : Binding} (hkey : Key.Readable binding.keyCode)
    (hne : binding.keyCode ≠ 0) (hnamed : binding.toCondition.Named) (homes : Homes) :
    ∃ written back, binding.toCondition.text = .ok written ∧
      (Binding.ofParts written "x".toList (Settings.usual homes)).value = .ok back ∧
      back.toCondition = binding.toCondition.visible := by
  obtain ⟨written, hwritten⟩ := Condition.exists_written hkey hne hnamed
  obtain ⟨back, hback, hcondition⟩ := hwritten.exists_ofParts homes
  exact ⟨written, back, hwritten.text_eq, hback, hcondition⟩

/-- A binding with named bits in its masks, on a named key that is no modifier or on the key of any
binding that is read, has a written condition. The binding made of it has the same key and masks,
and the sets within these, so both answer the same key presses. A binding that is read, from a file
or otherwise, gets its own condition back. -/
theorem Binding.exists_reread (homes : Homes) :
    (∀ binding : Binding, binding.toCondition.Named →
      ((∃ key ∈ Key.named, key.code ∉ Key.modifierKeys ∧ binding.keyCode = key.code) ∨
        binding.keyCode ≠ 0 ∧ ∃ read : Binding, read.IsRead ∧ read.keyCode = binding.keyCode) →
      ∃ written back, binding.toCondition.text = .ok written ∧
        (Binding.ofParts written "x".toList (Settings.usual homes)).value = .ok back ∧
        back.keyCode = binding.keyCode ∧
        back.modifierMask = binding.modifierMask ∧ back.modeMask = binding.modeMask ∧
        back.modifiers = binding.modifiers &&& binding.modifierMask ∧
        back.modes = binding.modes &&& binding.modeMask ∧
        ∀ press, back.accepts press = binding.accepts press) ∧
      ∀ binding : Binding,
        (binding.IsRead ∨ ∃ tree path settings layout,
          (Layout.load tree path settings).value = .ok layout ∧ binding ∈ layout.bindings) →
        binding.keyCode ≠ 0 →
        ∃ written back, binding.toCondition.text = .ok written ∧
          (Binding.ofParts written "x".toList (Settings.usual homes)).value = .ok back ∧
          back.toCondition = binding.toCondition := by
  constructor
  · intro binding hnamed hkey
    have hreadable : Key.Readable binding.keyCode ∧ binding.keyCode ≠ 0 := by
      rcases hkey with ⟨key, hmem, hmodifier, heq⟩ | ⟨hne, read, hread, heq⟩
      · exact heq ▸ ⟨.named key hmem hmodifier, Key.code_ne_zero key hmem⟩
      · exact ⟨heq ▸ hread.readable, hne⟩
    obtain ⟨written, back, hwritten, hback, hcondition⟩ :=
      exists_ofParts hreadable.1 hreadable.2 hnamed homes
    refine ⟨written, back, hwritten, hback, ?_⟩
    rw [hcondition]
    exact ⟨rfl, rfl, rfl, rfl, rfl, binding.toCondition.accepts_visible⟩
  · rintro binding hread hne
    have hisRead : binding.IsRead := by
      rcases hread with hread | ⟨tree, path, settings, layout, hload, hmem⟩
      · exact hread
      · exact Layout.isRead_of_load hload hmem
    obtain ⟨written, back, hwritten, hback, hcondition⟩ :=
      exists_ofParts hisRead.readable hne hisRead.named homes
    refine ⟨written, back, hwritten, hback, ?_⟩
    rw [hcondition, Condition.visible_of_within hisRead.within]

/-- A binding on a key with sets beyond its masks, and its own condition read back. -/
theorem Binding.exists_reread_home :
    ∃ written back,
      Condition.text ⟨0x1000010, 0xFFFFFFFF, 0x6000000, 0x3F, 0x12⟩ = .ok written ∧
        (Binding.ofParts written "x".toList (Settings.usual ⟨"/root".toList, []⟩)).value =
          .ok back ∧
        back.keyCode = 0x1000010 ∧ back.modifiers = 0x6000000 ∧ back.modes = 0x12 := by
  obtain ⟨written, back, hwritten, hback, hkey, -, -, hmodifiers, hmodes, -⟩ :=
    (exists_reread ⟨"/root".toList, []⟩).1
      ⟨⟨0x1000010, 0xFFFFFFFF, 0x6000000, 0x3F, 0x12⟩, .none, []⟩ ⟨by decide, by decide⟩
      (Or.inl ⟨⟨0x1000010, "Home".toList, none⟩, by decide +kernel, by decide, rfl⟩)
  exact ⟨written, back, hwritten, hback, hkey, hmodifiers, hmodes⟩

end TermKeys
