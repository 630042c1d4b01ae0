import TermKeys.Proofs.Layout.Written

/-!
Bindings that are read. Whatever the lines of a source are, and in whatever encodings they are read,
a binding from them is regular: its sets lie within its masks and these have named bits alone, it
either sends text or triggers a command that has a spelling, and its key is a named one or a
character. There are keys without a name and keys without a written form, but a binding that is read
is on none of them, so it always has a written condition (`Binding.isRegular_of_yields`).
-/

set_option autoImplicit false

namespace TermKeys

open Unicode

/-! ### Regular bindings -/

/-- A binding as lines give it. -/
structure Binding.IsRegular (binding : Binding) : Prop where
  within : binding.toCondition.Within
  named : binding.toCondition.Named
  holdable : binding.IsHoldable
  /-- The unknown key is one of the named keys. -/
  key : (∃ key ∈ Key.named, key.code ∉ Key.modifierKeys ∧ binding.keyCode = key.code) ∨
    0 ≤ binding.keyCode ∧ binding.keyCode ≤ 0x10FFFF

/-- A binding is read with a text or a command in any encoding, never with both. -/
theorem Reader.isHoldable_of_bindingOf {settings : Settings} {descriptor : Text} {action : Action}
    {binding : Binding} (h : (bindingOf settings descriptor action).value = .ok binding) :
    binding.IsHoldable := by
  cases action with
  | send text =>
    simp only [bindingOf, Noted.bind] at h
    cases hbytes : Encoding.encodeAs settings.outputEncoding text with
    | error fault =>
      rw [hbytes] at h
      cases h
    | ok bytes =>
      rw [hbytes] at h
      obtain rfl := Except.ok.inj h
      exact Or.inl rfl
  | command word =>
    simp only [bindingOf, Noted.bind, Noted.map, commandOf] at h
    obtain rfl := Except.ok.inj h
    cases hnamed : Command.named? word with
    | none => exact Or.inl rfl
    | some command => exact Or.inr ⟨rfl, Command.text?_of_named? hnamed⟩

theorem Reader.isHoldable_of_entryOf? {settings : Settings} {line : RawLine} {binding : Binding}
    (h : entryOf? settings line = some (.ok binding)) : binding.IsHoldable := by
  unfold entryOf? at h
  split at h
  · simp at h
  · split at h
    · exact isHoldable_of_bindingOf (Option.some.inj h)
    · simp at h

theorem Key.Readable.named_or_character {code : Int} (h : Key.Readable code) :
    (∃ key ∈ Key.named, key.code ∉ Key.modifierKeys ∧ code = key.code) ∨
      0 ≤ code ∧ code ≤ 0x10FFFF := by
  cases h with
  | named key hkey hmodifier => exact Or.inl ⟨key, hkey, hmodifier, rfl⟩
  | character c =>
    have hbound := Key.toNat_lt (upperOne c)
    exact Or.inr ⟨by omega, by omega⟩

/-- Every binding that a reader hands out is regular, whatever the lines of its source and its
settings are, and both its key and its condition have a written form. -/
theorem Binding.isRegular_of_yields {settings : Settings} {lines : List RawLine} {reader : Reader}
    (hstart : (Reader.start settings lines).1.value = .ok reader) {binding : Binding}
    (hyields : reader.Yields binding) :
    binding.IsRegular ∧ (∃ name, Key.text binding.keyCode = .ok name) ∧
      ∃ written, binding.toCondition.text = .ok written := by
  have hread : binding.IsRead := ⟨settings, lines, reader, hstart, hyields⟩
  obtain ⟨line, -, hentry⟩ := Reader.exists_line_of_yields hstart hyields
  obtain ⟨name, hname⟩ := hread.readable.exists_text
  refine ⟨⟨hread.within, hread.named, Reader.isHoldable_of_entryOf? hentry,
    hread.readable.named_or_character⟩, ⟨name, hname⟩, name ++ binding.flagsText, ?_⟩
  exact Condition.text_eq_ok_iff.mpr ⟨name, hname, rfl⟩

/-- A key whose upper case is two characters, a modifier under both signs, and text with a character
that the encoding for output lacks. -/
theorem Binding.isRegular_of_yields_sharp :
    ∃ reader,
      (Reader.start { Settings.trial with outputEncoding := "latin-1".toList }
          [.text "key \u00df+Shift+AnyMod-Shift,Keypad : \"\u00e9\u20ac\"".toList]).1.value =
        .ok reader ∧
      reader.take.1.value = .ok ⟨⟨0xDF, 0x2000000, 0x22000000, 16, 16⟩, .none, [0xE9, 0x3F]⟩ ∧
      Binding.IsRegular ⟨⟨0xDF, 0x2000000, 0x22000000, 16, 16⟩, .none, [0xE9, 0x3F]⟩ ∧
      ∃ written, Condition.text ⟨0xDF, 0x2000000, 0x22000000, 16, 16⟩ = .ok written := by
  have htaken : ((Reader.start { Settings.trial with outputEncoding := "latin-1".toList }
      [.text "key \u00df+Shift+AnyMod-Shift,Keypad : \"\u00e9\u20ac\"".toList]).1.value.map
        fun reader ↦ reader.take.1.value) =
      .ok (.ok ⟨⟨0xDF, 0x2000000, 0x22000000, 16, 16⟩, .none, [0xE9, 0x3F]⟩) := by
    decide +kernel
  cases hstart : (Reader.start { Settings.trial with outputEncoding := "latin-1".toList }
      [.text "key \u00df+Shift+AnyMod-Shift,Keypad : \"\u00e9\u20ac\"".toList]).1.value with
  | error fault =>
    rw [hstart] at htaken
    exact nomatch htaken
  | ok reader =>
    rw [hstart] at htaken
    have htake := Except.ok.inj htaken
    obtain ⟨hregular, -, hwritten⟩ := Binding.isRegular_of_yields hstart (.now htake)
    exact ⟨reader, rfl, htake, hregular, hwritten⟩

end TermKeys
