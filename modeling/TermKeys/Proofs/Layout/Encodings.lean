import TermKeys.Proofs.Encoding.Ascii
import TermKeys.Proofs.Layout.Description
import TermKeys.Proofs.Reader.Named

/-!
Lines of bindings in different encodings. The output that a binding sends is written with escapes,
in ASCII, and only then read as a text in the encoding of the layout. So UTF-8, Latin-1 and ASCII
give the same lines, and what such a line sends is read alike under all three. UTF-16 gives another
text wherever there is any (`Binding.resultText_eq_utf8_iff`).
-/

set_option autoImplicit false

namespace TermKeys

open Binding (asciiText)

/-! ### Behind a colon -/

/-- Everything that follows a colon in a text is in ASCII. -/
def Text.AsciiBehindColon (text : Text) : Prop :=
  text.Pairwise fun earlier later ↦ earlier = ':' → later.toNat < 0x80

theorem Text.asciiBehindColon_append {front rest : Text} (hfront : ':' ∉ front)
    (hrest : ∀ c ∈ rest, c.toNat < 0x80) : AsciiBehindColon (front ++ rest) := by
  refine List.pairwise_append.mpr ⟨?_, ?_, fun _ _ later hlater _ ↦ hrest later hlater⟩
  · exact List.pairwise_of_forall_mem_list fun earlier hearlier _ _ hcolon ↦
      absurd (hcolon ▸ hearlier) hfront
  · exact List.pairwise_of_forall_mem_list fun _ _ later hlater _ ↦ hrest later hlater

/-- The words behind a colon are in ASCII, and so are the spaces between them. -/
theorem Text.AsciiBehindColon.of_plain {text before after : Text} (h : AsciiBehindColon text)
    (hplain : plain text = before ++ ':' :: after) : ∀ c ∈ after, c.toNat < 0x80 := by
  intro c hc
  by_cases hspace : c = ' '
  · rw [hspace]
    decide
  · -- Without its spaces the plain form is a part of the text, so its pairs are pairs of the text.
    have hwords : (text.filter fun c ↦ !Unicode.isBlank c) =
        before.filter (· != ' ') ++ ':' :: after.filter (· != ' ') := by
      rw [← filter_plain, hplain, List.filter_append, List.filter_cons_of_pos (by decide)]
    have hpairwise : AsciiBehindColon
        (before.filter (· != ' ') ++ ':' :: after.filter (· != ' ')) :=
      hwords ▸ List.Pairwise.sublist List.filter_sublist h
    have hkept : c ∈ after.filter (· != ' ') := List.mem_filter.mpr ⟨hc, by simpa using hspace⟩
    exact List.rel_of_pairwise_cons (List.pairwise_append.mp hpairwise).2.1 hkept rfl

namespace Line

/-- What a line sends stands behind a colon. -/
theorem ascii_of_read_send {line descriptor body : Text} (h : Text.AsciiBehindColon line)
    (hread : read line = .key descriptor (.send body)) : ∀ c ∈ body, c.toNat < 0x80 := by
  intro c hc
  unfold read at hread
  split at hread
  · exact nomatch hread
  · obtain ⟨first, rest, before, hwords, hsplit, -⟩ := ofPlain_eq_key hread
    obtain ⟨after, rfl, haction⟩ := splitAction?_eq_some hsplit
    have hkept : Text.AsciiBehindColon (dropComment line) :=
      have hprefix := dropComment_prefix line
      List.Pairwise.sublist hprefix.sublist h
    have hplain : Text.plain (dropComment line) =
        (keyWord ++ first :: before) ++ ':' :: after := by
      rw [hwords, List.append_assoc]
      rfl
    exact hkept.of_plain hplain c (subset_of_action? haction hc)

end Line

/-! ### Reading -/

/-- A line that sends nothing but ASCII is read as in UTF-8. -/
theorem Reader.entryOf?_of_ascii {settings : Settings} {use : EncodingUse} {encoding : Encoding}
    (hname : Encoding.find use settings.outputEncoding = .ok encoding)
    (hne : encoding ≠ .utf16le) {raw : RawLine} {line : Text}
    (hraw : raw.decode settings.inputEncoding = .ok line) (h : Text.AsciiBehindColon line) :
    entryOf? settings raw = (bindingOf? line).map .ok := by
  refine entryOf?_of_decode hraw fun descriptor action hread ↦ value_bindingOf_of_encodeAs ?_ _
  rintro body rfl
  rw [Encoding.encodeAs, Encoding.find_of_find hname,
    ← Encoding.encode_ascii_of_ne hne (Line.ascii_of_read_send h hread)]
  rfl

/-! ### Lines in ASCII -/

/-- The colon is a named key, so it stands in no written one. -/
theorem Key.colon_not_mem_text {code : Int} {key : Text} (h : Key.text code = .ok key) :
    ':' ∉ key := by
  rcases text_cases h with ⟨found, hfound, rfl⟩ | ⟨hnone, hpositive, rfl⟩ | rfl
  · exact fun hmem ↦ (mem_spelling found hfound _ hmem).2.2.2 (by decide)
  · intro hmem
    have hcolon : (Char.ofNat code.toNat).toNat = 0x3A :=
      congrArg Char.toNat (List.mem_singleton.mp hmem).symm
    by_cases hvalid : code.toNat.isValidChar
    · rw [Char.ofNat, dif_pos hvalid] at hcolon
      have hcode : code.toNat = 0x3A := hcolon
      obtain rfl : code = 0x3A := by omega
      exact absurd hnone (by decide +kernel)
    · rw [Char.ofNat, dif_neg hvalid] at hcolon
      exact absurd hcolon (by decide)
  · have hdigits := Text.colon_not_mem_hexOfInt code
    simpa using hdigits

theorem Condition.colon_not_mem_flagsText (condition : Condition) : ':' ∉ condition.flagsText :=
  fun hmem ↦ (isPlainChar_flagsText hmem).2.2 (by decide)

/-- The spellings of commands and what is written of output are in ASCII. -/
theorem Binding.ascii_of_mem_resultText {binding : Binding} {result : Text}
    (h : binding.resultText "utf-8".toList = .ok result) : ∀ c ∈ result, c.toNat < 0x80 := by
  have hspellings : ∀ command : Command, ∀ spelling ∈ command.text?,
      (spelling.all fun c ↦ c.toNat < 0x80) = true := by
    intro command
    cases command <;> decide +kernel
  rcases binding.text?_cases with ⟨htext, spelling, hspelling⟩ | hsent
  · rw [resultText_of_text? htext hspelling] at h
    obtain rfl := Except.ok.inj h
    exact List.all_iff_forall_prop.mp (hspellings binding.command spelling hspelling)
  · have hascii : ∀ byte ∈ binding.writtenOutput, byte.toNat < 0x80 :=
      fun _ hbyte ↦ toNat_lt_of_mem_write hbyte
    rw [resultText_of_sent hsent, Reader.decodeAs_utf8, decode_ascii hascii] at h
    obtain rfl := Except.ok.inj h
    intro c hc
    rcases List.mem_append.mp hc with hc | hc
    · rcases List.mem_cons.mp hc with rfl | hc
      · decide
      · obtain ⟨byte, hbyte, rfl⟩ := mem_asciiText.mp hc
        rw [toNat_ofNat_toNat]
        exact hascii byte hbyte
    · rw [List.mem_singleton.mp hc]
      decide

theorem Layout.asciiBehindColon_of_bindingLine {binding : Binding} {line : Text}
    (h : bindingLine binding "utf-8".toList = .ok line) : Text.AsciiBehindColon line := by
  obtain ⟨key, result, hkey, hresult, rfl⟩ := exists_parts_of_bindingLine h
  have hfront : ':' ∉ "key ".toList ++ (key ++ binding.flagsText) := by
    simp [Key.colon_not_mem_text hkey, Condition.colon_not_mem_flagsText]
  rw [List.append_assoc, List.append_assoc]
  refine Text.asciiBehindColon_append hfront fun c hc ↦ ?_
  rcases List.mem_append.mp hc with hc | hc
  · have hcolon : (" : ".toList.all fun d ↦ d.toNat < 0x80) = true := by decide +kernel
    exact List.all_iff_forall_prop.mp hcolon c hc
  · rcases List.mem_append.mp hc with hc | hc
    · exact Binding.ascii_of_mem_resultText hresult c hc
    · rw [List.mem_singleton.mp hc]
      decide

/-! ### Lines and encodings -/

theorem Escape.expand_ne_nil {bytes : Bytes} (h : bytes ≠ []) : expand bytes ≠ [] := by
  obtain ⟨byte, rest, rfl⟩ := List.exists_cons_of_ne_nil h
  by_cases hbyte : byte = backslash
  · subst hbyte
    cases hescape : escape? rest with
    | none => simp [expand_backslash_of_none hescape]
    | some found => simp [expand_backslash_of_some hescape]
  · simp [expand_cons_of_ne hbyte]

theorem Escape.write_ne_nil {bytes : Bytes} (h : bytes ≠ []) : write bytes ≠ [] := by
  obtain ⟨byte, rest, rfl⟩ := List.exists_cons_of_ne_nil h
  rw [write_cons]
  exact List.append_ne_nil_of_left_ne_nil (writeByte_plain byte).2.2.2 _

/-- Written output is read as it stands by every encoding but UTF-16. -/
theorem Binding.decode_writtenOutput_iff (encoding : Encoding) (binding : Binding) :
    encoding.decode binding.writtenOutput = asciiText binding.writtenOutput ↔
      encoding ≠ .utf16le ∨ binding.text = [] := by
  have hascii : ∀ byte ∈ binding.writtenOutput, 0x20 ≤ byte.toNat ∧ byte.toNat < 0x80 :=
    fun _ hbyte ↦ ⟨UInt8.le_iff_toNat_le.mp (Escape.printable_of_mem_write hbyte).1,
      toNat_lt_of_mem_write hbyte⟩
  by_cases hutf16 : encoding = .utf16le
  · by_cases htext : binding.text = []
    · have hwritten : binding.writtenOutput = [] := by
        rw [writtenOutput, output, htext]
        rfl
      rw [hwritten, hutf16]
      exact ⟨fun _ ↦ Or.inr htext, fun _ ↦ rfl⟩
    · have hwritten : binding.writtenOutput ≠ [] :=
        Escape.write_ne_nil (Escape.expand_ne_nil htext)
      simpa [hutf16, htext] using Encoding.decode_utf16le_ne hwritten hascii
  · exact ⟨fun _ ↦ Or.inl hutf16,
      fun _ ↦ Encoding.decode_ascii_of_ne hutf16 fun byte hbyte ↦ (hascii byte hbyte).2⟩

section

variable {use : EncodingUse} {name : Text} {encoding : Encoding}

theorem Binding.resultText_eq_iff (hname : Encoding.find use name = .ok encoding)
    (binding : Binding) :
    binding.resultText name = binding.resultText "utf-8".toList ↔
      encoding ≠ .utf16le ∨ binding.text = [] := by
  have hutf8 : Encoding.decodeAs "utf-8".toList binding.writtenOutput =
      .ok (asciiText binding.writtenOutput) := by
    rw [Reader.decodeAs_utf8, (decode_writtenOutput_iff .utf8 binding).mpr (Or.inl (by decide))]
  rcases binding.text?_cases with ⟨htext, spelling, hspelling⟩ | hsent
  · rw [resultText_of_text? htext hspelling, resultText_of_text? htext hspelling]
    exact ⟨fun _ ↦ Or.inr htext, fun _ ↦ rfl⟩
  · rw [← decode_writtenOutput_iff, resultText_of_sent hsent, resultText_of_sent hsent,
      Encoding.decodeAs_of_find hname, hutf8]
    refine ⟨fun heq ↦ ?_, fun heq ↦ by rw [heq]⟩
    exact List.append_cancel_right (List.cons.inj (Except.ok.inj heq)).2

theorem Layout.bindingLine_of_ne (hname : Encoding.find use name = .ok encoding)
    (hne : encoding ≠ .utf16le) (binding : Binding) :
    bindingLine binding name = bindingLine binding "utf-8".toList := by
  rw [bindingLine, bindingLine, Binding.line, Binding.line, Binding.linePoints,
    Binding.linePoints, Binding.resultPoints_decoder, Binding.resultPoints_decoder,
    (Binding.resultText_eq_iff hname binding).mpr (Or.inl hne)]

/-- The written result of a binding is the same in a known encoding as in UTF-8 just when that
encoding is not UTF-16 or the binding has no text. In the other encodings the whole line is the
same, and settings with that encoding for output read it as in UTF-8; so a binding that lines can
hold, with output that survives in a line, is read with its command and its output. -/
theorem Binding.resultText_eq_utf8_iff (hname : Encoding.find use name = .ok encoding)
    (binding : Binding) :
    (binding.resultText name = binding.resultText "utf-8".toList ↔
        encoding ≠ .utf16le ∨ binding.text = []) ∧
      (encoding ≠ .utf16le →
        Layout.bindingLine binding name = Layout.bindingLine binding "utf-8".toList ∧
        ∀ settings : Settings, settings.outputEncoding = name → ∀ (line : Text) (raw : RawLine),
          Layout.bindingLine binding name = .ok line →
          raw.decode settings.inputEncoding = .ok line →
          Reader.entryOf? settings raw = (Reader.bindingOf? line).map .ok ∧
          ∀ written, binding.toCondition.text = .ok written → Condition.IsWord written →
            binding.IsHoldable → Survives binding.output →
            ∃ back, Reader.entryOf? settings raw = some (.ok back) ∧
              back.command = binding.command ∧ back.output = binding.output) := by
  refine ⟨resultText_eq_iff hname binding, fun hne ↦ ?_⟩
  have hline := Layout.bindingLine_of_ne hname hne binding
  refine ⟨hline, ?_⟩
  rintro settings rfl line raw hwrites hraw
  rw [hline] at hwrites
  have hentry := Reader.entryOf?_of_ascii hname hne hraw
    (Layout.asciiBehindColon_of_bindingLine hwrites)
  refine ⟨hentry, fun written hwritten hword hholdable hsurvives ↦ ?_⟩
  obtain ⟨found, hfound, hback⟩ := exists_line hholdable hwritten hword
  obtain rfl := Except.ok.inj (hfound.eq.symm.trans hwrites)
  obtain ⟨back, hbinding, -, hcommand, houtput⟩ := hback hsurvives
  exact ⟨back, by rw [hentry, hbinding]; rfl, hcommand, houtput⟩

/-- A byte that is no character in UTF-8 is written with an escape, also where it is one. -/
theorem Binding.resultText_eq_utf8_iff_latin1 :
    Encoding.find .decode "ISO-8859-1".toList = .ok .latin1 ∧
      Binding.resultText ⟨⟨0x1000013, 0, 0, 0, 0⟩, .none, [0x5C, 0x45, 0xE9]⟩ "ISO-8859-1".toList =
        Binding.resultText ⟨⟨0x1000013, 0, 0, 0, 0⟩, .none, [0x5C, 0x45, 0xE9]⟩ "utf-8".toList ∧
      ∃ back, Reader.entryOf? { Settings.trial with outputEncoding := "ISO-8859-1".toList }
          (.text "key Up : \"\\E\\xe9\"\n".toList) = some (.ok back) ∧
        back.output = [0x1B, 0xE9] := by
  have hname : Encoding.find .decode "ISO-8859-1".toList = .ok .latin1 := by decide +kernel
  obtain ⟨hiff, hread⟩ := resultText_eq_utf8_iff hname
    ⟨⟨0x1000013, 0, 0, 0, 0⟩, .none, [0x5C, 0x45, 0xE9]⟩
  have hwritten : Condition.IsWord "Up".toList :=
    ⟨by decide, List.all_iff_forall_prop.mp (by decide +kernel)⟩
  obtain ⟨-, hback⟩ := (hread (by decide)).2
    { Settings.trial with outputEncoding := "ISO-8859-1".toList } rfl
    "key Up : \"\\E\\xe9\"\n".toList (.text _) (by decide +kernel) rfl
  obtain ⟨back, hentry, -, houtput⟩ :=
    hback "Up".toList (by decide +kernel) hwritten (Or.inl rfl) (by decide +kernel)
  exact ⟨hname, hiff.mpr (Or.inl (by decide)), back, hentry, houtput.trans (by decide +kernel)⟩

end

/-- One byte of output is broken in UTF-16, so two bindings that send different letters have the
same result there, and it is neither of those in UTF-8. -/
theorem Binding.resultText_utf16le :
    ∃ first second : Binding, first.output ≠ second.output ∧
      first.resultText "utf-16-le".toList = second.resultText "utf-16-le".toList ∧
      first.resultText "utf-16-le".toList ≠ first.resultText "utf-8".toList ∧
      second.resultText "utf-16-le".toList ≠ second.resultText "utf-8".toList :=
  ⟨⟨⟨0x41, 0, 0, 0, 0⟩, .none, [0x61]⟩, ⟨⟨0x42, 0, 0, 0, 0⟩, .none, [0x62]⟩, by decide +kernel,
    by decide +kernel, by decide +kernel, by decide +kernel⟩

end TermKeys
