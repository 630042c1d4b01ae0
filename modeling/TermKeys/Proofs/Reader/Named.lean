import TermKeys.Proofs.Encoding.Codec
import TermKeys.Proofs.Reader.Bytes

/-!
UTF-8 under any of its names. Settings may hold one of the other names that UTF-8 goes by, and lines
are then read just as under its own (`exists_start_named`).
-/

set_option autoImplicit false

namespace TermKeys

/-- Settings whose encodings are names of UTF-8. -/
structure Settings.NamesUtf8 (settings : Settings) : Prop where
  input : Encoding.find .decode settings.inputEncoding = .ok .utf8
  output : Encoding.find .encode settings.outputEncoding = .ok .utf8

/-- The same settings with UTF-8 under its own name. -/
def Settings.plain (settings : Settings) : Settings :=
  { settings with inputEncoding := "utf-8".toList, outputEncoding := "utf-8".toList }

theorem Settings.utf8_plain (settings : Settings) : settings.plain.Utf8 := ⟨rfl, rfl⟩

theorem Encoding.decodeAs_of_find_utf8 {use : EncodingUse} {name : Text}
    (h : find use name = .ok .utf8) (bytes : Bytes) :
    decodeAs name bytes = decodeAs "utf-8".toList bytes := by
  rw [Reader.decodeAs_utf8]
  exact decodeAs_of_find h bytes

namespace Reader

variable {settings : Settings}

theorem decode_plain (h : settings.NamesUtf8) (line : RawLine) :
    line.decode settings.inputEncoding = line.decode settings.plain.inputEncoding := by
  cases line with
  | text line => rfl
  | bytes line => exact Encoding.decodeAs_of_find_utf8 h.input line

theorem bindingOf_plain (h : settings.NamesUtf8) (descriptor : Text) (action : Action) :
    bindingOf settings descriptor action = bindingOf settings.plain descriptor action := by
  have hencode : ∀ text, Encoding.encodeAs settings.outputEncoding text =
      Encoding.encodeAs settings.plain.outputEncoding text := by
    intro text
    rw [Encoding.encodeAs, h.output]
    rfl
  cases action with
  | send text => rw [bindingOf, bindingOf]; simp only [hencode]
  | command word => rfl

theorem entryOf?_plain (h : settings.NamesUtf8) (line : RawLine) :
    entryOf? settings line = entryOf? settings.plain line := by
  simp only [entryOf?, decode_plain h, bindingOf_plain h]

theorem titleOf_plain (h : settings.NamesUtf8) (lines : List RawLine) :
    titleOf settings lines = titleOf settings.plain lines :=
  titleOf_congr (List.forall₂_same.mpr fun line _ ↦ ⟨rfl, by rw [decode_plain h]⟩)

/-- Lines in UTF-8 hold the bindings of the key lines among them. -/
theorem filterMap_entryOf?_named (h : settings.NamesUtf8) (lines : List RawLine) :
    lines.filterMap (entryOf? settings) = (bindingsOf (lines.map RawLine.utf8Text)).map .ok := by
  rw [← filterMap_entryOf?_utf8 settings.utf8_plain]
  exact List.filterMap_congr fun line _ ↦ entryOf?_plain h line

/-- A reader of lines in UTF-8 has their title and hands out the bindings of all of them. -/
theorem exists_start_named (h : settings.NamesUtf8) (lines : List RawLine) :
    ∃ reader, (start settings lines).1.value = .ok reader ∧
      reader.description = descriptionOf ((RawLine.upToEnd lines).map RawLine.utf8Text) ∧
      reader.view.outstanding.map Prod.snd =
        (bindingsOf ((RawLine.upToEnd lines).map RawLine.utf8Text)).map .ok ∧
      reader.takeAll.1.value =
        .ok (bindingsOf ((RawLine.upToEnd lines).map RawLine.utf8Text)) := by
  cases hstart : (start settings lines).1.value with
  | error fault =>
    have hall := allBindings_of_start_error hstart
    rw [filterMap_entryOf?_named h, allBindings_map_ok] at hall
    exact nomatch hall
  | ok reader =>
    obtain ⟨hdescription, hall⟩ := takeAll_of_start hstart
    refine ⟨reader, rfl, ?_, ?_, ?_⟩
    · rw [hdescription, titleOf_plain h, titleOf_utf8 settings.utf8_plain]
    · rw [(outstanding_start hstart).2.1, map_snd_entriesOf, filterMap_entryOf?_named h]
    · rw [hall, filterMap_entryOf?_named h, allBindings_map_ok]

end Reader

end TermKeys
