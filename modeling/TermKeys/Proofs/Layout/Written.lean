import TermKeys.Proofs.Layout.Lines
import TermKeys.Proofs.Line.Sent

/-!
Bindings as lines of a layout file. A binding that sends output comes back from its line with the
same output just when the output survives (`exists_reread_iff`); one that triggers a command always
comes back.
-/

set_option autoImplicit false

namespace TermKeys

open Binding (asciiText)
open Unicode

/-! ### The parts of a line -/

/-- A binding as the lines of a layout file give it: it sends text, or it triggers a command that
has a spelling. -/
def Binding.IsHoldable (binding : Binding) : Prop :=
  binding.command = .none ∨ binding.text = [] ∧ binding.command.text?.isSome = true

theorem Command.text_of_text? : ∀ command : Command, ∀ spelling ∈ command.text?,
    spelling ≠ [] ∧ (∀ c ∈ spelling, isWordChar c = true ∧ c ≠ '\n' ∧ c ≠ Char.ofNat 0) ∧
      Text.plain (Line.dropComment (spelling ++ ['\n'])) = spelling ∧
      Command.named? spelling = some command := by
  have hchars : ∀ command : Command, ∀ spelling ∈ command.text?,
      (spelling.all fun c ↦ isWordChar c = true ∧ c ≠ '\n' ∧ c ≠ Char.ofNat 0) = true := by
    intro command
    cases command <;> decide +kernel
  have hread : ∀ command : Command, ∀ spelling ∈ command.text?, spelling ≠ [] ∧
      Text.plain (Line.dropComment (spelling ++ ['\n'])) = spelling ∧
      Command.named? spelling = some command := by
    intro command
    cases command <;> decide +kernel
  intro command spelling h
  obtain ⟨hne, hrest⟩ := hread command spelling h
  exact ⟨hne, List.all_iff_forall_prop.mp (hchars command spelling h), hrest⟩

theorem Command.text?_of_named? {word : Text} {command : Command}
    (h : Command.named? word = some command) : command.text?.isSome = true := by
  obtain ⟨spelling, hspelling, -⟩ := Command.named?_eq_some_iff.mp h
  rw [hspelling]
  rfl

theorem Reader.isHoldable_bindingFor (descriptor : Text) (action : Action) :
    (bindingFor descriptor action).IsHoldable := by
  cases action with
  | send text => exact Or.inl rfl
  | command word =>
    cases hnamed : Command.named? word with
    | none => exact Or.inl (by simp [bindingFor, hnamed])
    | some command =>
      refine Or.inr ⟨rfl, ?_⟩
      simpa [bindingFor, hnamed] using Command.text?_of_named? hnamed

/-- No control character stands in the written form of output. -/
theorem Binding.le_toNat_of_mem_written {binding : Binding} {c : Char}
    (h : c ∈ asciiText binding.writtenOutput) : 0x20 ≤ c.toNat := by
  obtain ⟨byte, hbyte, rfl⟩ := mem_asciiText.mp h
  rw [toNat_ofNat_toNat]
  exact UInt8.le_iff_toNat_le.mp (Escape.printable_of_mem_write hbyte).1

theorem Binding.resultText_of_none {binding : Binding} (h : binding.command = .none) :
    binding.resultText "utf-8".toList = .ok ('"' :: asciiText binding.writtenOutput ++ ['"']) := by
  have hascii : ∀ byte ∈ binding.writtenOutput, byte.toNat < 0x80 :=
    fun _ hbyte ↦ toNat_lt_of_mem_write hbyte
  rw [resultText_of_sent (Or.inr (by rw [h]; rfl)), Reader.decodeAs_utf8, decode_ascii hascii]
  rfl

/-! ### Lines -/

/-- The line of a binding, from which no longer output is read and no binding of the null
character. -/
structure Binding.HasLine (binding : Binding) (line : Text) : Prop where
  eq : Layout.bindingLine binding "utf-8".toList = .ok line
  exists_body : ∃ body, line = body ++ ['\n'] ∧ '\n' ∉ body
  ne_title : ∀ title, Line.read line ≠ .title title
  keyCode_ne_zero : ∀ back, Reader.bindingOf? line = some back → back.keyCode ≠ 0
  length_le : ∀ back, Reader.bindingOf? line = some back →
    back.output.length ≤ binding.output.length ∧
      (back.output.length = binding.output.length → Survives binding.output)

/-- No line without a null character has the key of that character. -/
theorem Reader.keyCode_ne_zero {line : Text} (h : Char.ofNat 0 ∉ line) {back : Binding}
    (hback : bindingOf? line = some back) : back.keyCode ≠ 0 := by
  unfold bindingOf? at hback
  split at hback
  · next descriptor action hread =>
    obtain rfl := Option.some.inj hback
    have hblank : ∀ c ∈ descriptor, isBlank c = false := fun c hc ↦
      (Line.mem_of_mem_descriptor hread hc).2
    have hnull : Char.ofNat 0 ∉ descriptor := fun hmem ↦
      h (Line.mem_of_mem_descriptor hread hmem).1
    exact Key.keyCode_decode_ne_zero (fun c hc ↦ isBlank_of_mem_lower hblank hc) fun hhead ↦
      ne_null_of_mem_lower hnull (List.mem_of_head? hhead) rfl
  · simp at hback

section

variable {binding : Binding} {written : Text}

theorem Condition.IsWord.not_mem (h : Condition.IsWord written) :
    '\n' ∉ written ∧ Char.ofNat 0 ∉ written :=
  ⟨fun hmem ↦ absurd (h.plain _ hmem).1 (by decide), fun hmem ↦ (h.plain _ hmem).2 (by decide)⟩

theorem hasLine_sent (hcommand : binding.command = .none)
    (hwritten : binding.toCondition.text = .ok written) (hword : Condition.IsWord written) :
    binding.HasLine (Line.sent written binding.output) := by
  have hfree : ∀ c : Char, c.toNat < 0x20 → c ∉ asciiText binding.writtenOutput :=
    fun c hc hmem ↦ absurd hc (Nat.not_lt_of_le (Binding.le_toNat_of_mem_written hmem))
  have hsplit : Line.sent written binding.output =
      "key ".toList ++ written ++ " : ".toList ++
        ('"' :: asciiText binding.writtenOutput ++ ['"']) ++ ['\n'] := by
    simp [Line.sent, Line.sentText, Binding.writtenOutput]
  refine ⟨?_, ⟨_, hsplit, ?_⟩,
    Line.read_keyLine_ne_title hword.isCondition (Line.words_sentText _), fun back hback ↦ ?_,
    fun back hback ↦ ?_⟩
  · rw [hsplit]
    exact Layout.bindingLine_eq_ok_iff.mpr
      ⟨written, _, hwritten, Binding.resultText_of_none hcommand, rfl⟩
  · have hoff := hfree '\n' (by decide)
    simp [hword.not_mem.1, hoff]
  · refine Reader.keyCode_ne_zero ?_ hback
    have hoff := hfree (Char.ofNat 0) (by decide)
    rw [hsplit]
    simp [hword.not_mem.2, hoff]
  · exact Reader.length_output_sent hword.isCondition hback

/-- The line of a command is read as that command. -/
theorem read_command {command : Command} {spelling : Text}
    (hspelling : command.text? = some spelling) (hword : Condition.IsWord written) :
    Line.read ("key ".toList ++ written ++ " : ".toList ++ (spelling ++ ['\n'])) =
      .key written (.command spelling) := by
  obtain ⟨hne, hchars, hplain, -⟩ := command.text_of_text? spelling hspelling
  have hwords : Text.words (Line.dropComment (spelling ++ ['\n'])) ≠ [] := by
    intro hnil
    rw [Text.plain, hnil] at hplain
    exact hne hplain.symm
  have haction : Line.action? (' ' :: Text.plain (Line.dropComment (spelling ++ ['\n']))) =
      some (.command spelling) := by
    rw [hplain]
    exact Line.action?_word hne fun c hc ↦ (hchars c hc).1
  exact hword.read_keyLine hwords haction

theorem bindingOf?_command {command : Command} {spelling : Text}
    (hspelling : command.text? = some spelling) (hword : Condition.IsWord written) :
    Reader.bindingOf? ("key ".toList ++ written ++ " : ".toList ++ (spelling ++ ['\n'])) =
      some { toCondition := (Descriptor.decode (lower written) {}).value
             command := command
             text := [] } := by
  obtain ⟨-, -, -, hnamed⟩ := command.text_of_text? spelling hspelling
  rw [Reader.bindingOf?, read_command hspelling hword]
  simp [Reader.bindingFor, hnamed]

theorem hasLine_command {spelling : Text} (hspelling : binding.command.text? = some spelling)
    (htext : binding.text = []) (hwritten : binding.toCondition.text = .ok written)
    (hword : Condition.IsWord written) :
    binding.HasLine ("key ".toList ++ written ++ " : ".toList ++ (spelling ++ ['\n'])) := by
  obtain ⟨-, hchars, -⟩ := binding.command.text_of_text? spelling hspelling
  have hsplit : "key ".toList ++ written ++ " : ".toList ++ (spelling ++ ['\n']) =
      "key ".toList ++ written ++ " : ".toList ++ spelling ++ ['\n'] :=
    (List.append_assoc _ _ _).symm
  have hline : '\n' ∉ spelling := fun hmem ↦ (hchars _ hmem).2.1 rfl
  have hnull : Char.ofNat 0 ∉ spelling := fun hmem ↦ (hchars _ hmem).2.2 rfl
  have houtput : binding.output = [] := by
    rw [Binding.output, htext]
    rfl
  refine ⟨?_, ⟨_, hsplit, ?_⟩, fun title htitle ↦ ?_, fun back hback ↦ ?_, fun back hback ↦ ?_⟩
  · rw [hsplit]
    exact Layout.bindingLine_eq_ok_iff.mpr
      ⟨written, _, hwritten, Binding.resultText_of_text? htext hspelling _, rfl⟩
  · simp [hword.not_mem.1, hline]
  · rw [read_command hspelling hword] at htitle
    cases htitle
  · refine Reader.keyCode_ne_zero ?_ hback
    simp [hword.not_mem.2, hnull]
  · rw [bindingOf?_command hspelling hword] at hback
    obtain rfl := Option.some.inj hback
    rw [houtput]
    exact ⟨Nat.le_refl _, fun _ ↦ by decide⟩

/-- Every binding that lines can hold has a line. -/
theorem exists_line (hholdable : binding.IsHoldable)
    (hwritten : binding.toCondition.text = .ok written) (hword : Condition.IsWord written) :
    ∃ line, binding.HasLine line ∧
      (Survives binding.output → ∃ back, Reader.bindingOf? line = some back ∧
        back.toCondition = (Descriptor.decode (lower written) {}).value ∧
        back.command = binding.command ∧ back.output = binding.output) := by
  by_cases hcommand : binding.command = .none
  · refine ⟨_, hasLine_sent hcommand hwritten hword, fun h ↦ ?_⟩
    refine ⟨_, Reader.bindingOf?_sent hword.isCondition h, ?_, hcommand.symm, ?_⟩
    · rw [hword.filter_eq]
      rfl
    · rw [Reader.output_bindingFor_send, Escape.expand_eq_self h.escapes]
  · obtain ⟨htext, hsome⟩ := hholdable.resolve_left hcommand
    obtain ⟨spelling, hspelling⟩ := Option.isSome_iff_exists.mp hsome
    refine ⟨_, hasLine_command hspelling htext hwritten hword, fun _ ↦ ?_⟩
    refine ⟨_, bindingOf?_command hspelling hword, rfl, rfl, ?_⟩
    rw [Binding.output, Binding.output, htext]

end

/-! ### Which output survives -/

/-- A binding that sends output, on a named key that is no modifier and with named bits in its
masks, is written as one line. A reader of that line hands out one binding with the same output just
when no two spaces in the output are neighbours, every number sign in it has an even number of
quotes after it and no backslash makes an escape with what follows. -/
theorem Binding.exists_reread_iff (others : Codecs) {settings : Settings} (hutf8 : settings.Utf8)
    {binding : Binding} (hcommand : binding.command = .none) (hnamed : binding.toCondition.Named)
    (hkey : ∃ key ∈ Key.named, key.code ∉ Key.modifierKeys ∧ binding.keyCode = key.code) :
    ∃ bytes reader,
      Layout.encodeLines Encoding.utf8.codec []
          [Layout.linePoints others "utf-8".toList binding] = (bytes, .ok ()) ∧
        (Reader.start settings (RawLine.ofBytes bytes)).1.value = .ok reader ∧
        ((∃ back, reader.takeAll.1.value = .ok [back] ∧ back.output = binding.output) ↔
          Survives binding.output) := by
  obtain ⟨key, hmem, hmodifier, hcode⟩ := hkey
  have hreadable : Key.Readable binding.keyCode := hcode ▸ .named key hmem hmodifier
  obtain ⟨written, hwritten⟩ := Condition.exists_written hreadable
    (hcode ▸ Key.code_ne_zero key hmem) hnamed
  obtain ⟨line, hline, hback⟩ := exists_line (Or.inl hcommand) hwritten.text_eq hwritten.isWord
  obtain ⟨body, rfl, hbody⟩ := hline.exists_body
  have hname : Encoding.find .openFile "utf-8".toList = .ok .utf8 := rfl
  have hencode : Layout.encodeLines Encoding.utf8.codec []
      [Layout.linePoints others "utf-8".toList binding] =
        (Utf8.encode (body ++ ['\n']), .ok ()) := by
    rw [(Layout.linePoints_eq_ok_iff hname).mpr hline.eq]
    simpa using Layout.encodeLines_utf8 [] [body ++ ['\n']]
  obtain ⟨reader, hstart, -, htaken⟩ :=
    Reader.exists_readAll hutf8 (RawLine.ofBytes (Utf8.encode (body ++ ['\n'])))
  have hlines : Text.linesBy '\n' (body ++ ['\n']) = [body ++ ['\n']] :=
    Text.linesBy_append_terminator hbody []
  have hbindings : Reader.bindingsOf [body ++ ['\n']] =
      (Reader.bindingOf? (body ++ ['\n'])).toList := by
    rw [Reader.bindingsOf, List.filterMap_cons]
    cases Reader.bindingOf? (body ++ ['\n']) <;> rfl
  rw [Reader.utf8Text_upToEnd_ofBytes, hlines, hbindings] at htaken
  refine ⟨_, reader, hencode, hstart, ?_⟩
  rw [htaken]
  constructor
  · rintro ⟨back, hsingle, houtput⟩
    have hfound : Reader.bindingOf? (body ++ ['\n']) = some back := by
      rw [← Option.mem_toList, Except.ok.inj hsingle]
      exact List.mem_singleton_self back
    exact (hline.length_le back hfound).2 (congrArg List.length houtput)
  · intro h
    obtain ⟨back, hfound, -, -, houtput⟩ := hback h
    exact ⟨back, by rw [hfound]; rfl, houtput⟩

/-- A number sign with two quotes after it comes back. -/
theorem Binding.exists_reread_iff_quotes :
    ∃ bytes reader back,
      Layout.encodeLines Encoding.utf8.codec []
          [Layout.linePoints Codec.others "utf-8".toList
            ⟨⟨0x1000013, 0, 0, 0, 0⟩, .none, Utf8.encode "\\E#\"\"".toList⟩] =
        (bytes, .ok ()) ∧
        (Reader.start .trial (RawLine.ofBytes bytes)).1.value = .ok reader ∧
        reader.takeAll.1.value = .ok [back] ∧ back.output = [0x1B, 0x23, 0x22, 0x22] := by
  obtain ⟨bytes, reader, hbytes, hstart, hiff⟩ :=
    @exists_reread_iff Codec.others .trial ⟨rfl, rfl⟩
      ⟨⟨0x1000013, 0, 0, 0, 0⟩, .none, Utf8.encode "\\E#\"\"".toList⟩ rfl ⟨by decide, by decide⟩
      ⟨⟨0x1000013, "Up".toList, none⟩, by decide +kernel, by decide, rfl⟩
  obtain ⟨back, hback, houtput⟩ := hiff.mpr (by decide +kernel)
  exact ⟨bytes, reader, back, hbytes, hstart, hback, houtput.trans (by decide +kernel)⟩

end TermKeys
