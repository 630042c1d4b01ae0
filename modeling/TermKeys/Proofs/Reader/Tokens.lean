import TermKeys.Proofs.Encoding.Lenient
import TermKeys.Proofs.Layout.Description
import TermKeys.Proofs.Line.Tokens

/-!
Reading by the places of tokens. A reader may look at the first token of a line and then take the
second and the third by their places, without asking whether they are there. It always finds them,
on every line of every source, and comes to what it comes to by the form of the line
(`nextKeyByPlace?_eq`, `openingByPlace?_eq`). Since the tokens are clean, what it hands out keeps to
one line: the description, and the output of every binding in whatever encoding it is written
(`isRow_read_and_isOneLine`).
-/

set_option autoImplicit false

namespace TermKeys

open Unicode Pattern

namespace Reader

/-! ### Tokens by their places -/

/-- The binding of a key line, with its descriptor taken from the second of its tokens and its
action from the third. There is no answer if one of these places is empty. -/
def bindingByPlace? (settings : Settings) (tokens : List Token) : Option (Outcome Binding) :=
  tokens[1]?.bind fun sequence ↦ tokens[2]?.map fun last ↦
    (Descriptor.decode (lower sequence.text) {}).bind fun condition ↦
      match last.kind with
      | .outputText =>
        ⟨(Encoding.encodeAs settings.outputEncoding last.text).map fun bytes ↦
          { condition with command := .none, text := bytes }, []⟩
      | .command =>
        (commandOf sequence.text last.text).map fun command ↦
          .ok { condition with command := command, text := [] }
      | _ => ⟨.ok { condition with command := .none, text := [] }, []⟩

/-- Reads lines up to the next one whose first token is that of a key line. -/
def nextKeyByPlace? (settings : Settings) :
    List RawLine → Nat → Option (Outcome (Option Binding) × Source)
  | [], asked => some (⟨.ok none, []⟩, ⟨[], asked + 1, true⟩)
  | line :: rest, asked =>
    if line.isEmpty then some (⟨.ok none, []⟩, ⟨rest, asked + 1, true⟩)
    else match line.decode settings.inputEncoding with
      | .error fault => some (⟨.error fault, []⟩, ⟨rest, asked + 1, false⟩)
      | .ok text =>
        match (Line.read text).tokens[0]?.map Token.kind with
        | some .keyKeyword =>
          (bindingByPlace? settings (Line.read text).tokens).map fun outcome ↦
            (outcome.map (·.map some), ⟨rest, asked + 1, false⟩)
        | _ =>
          (nextKeyByPlace? settings rest (asked + 1)).map fun (outcome, source) ↦
            (outcome.after (Line.read text).notes, source)

/-- Reads lines up to the first one whose first token is that of a key line, with the title taken
from the second token of a line in front of it. -/
def openingByPlace? (settings : Settings) :
    List RawLine → Nat → Option (Outcome (Text × Option Binding) × Source)
  | [], asked => some (⟨.ok ([], none), []⟩, ⟨[], asked + 1, true⟩)
  | line :: rest, asked =>
    if line.isEmpty then some (⟨.ok ([], none), []⟩, ⟨rest, asked + 1, true⟩)
    else match line.decode settings.inputEncoding with
      | .error fault => some (⟨.error fault, []⟩, ⟨rest, asked + 1, false⟩)
      | .ok text =>
        match (Line.read text).tokens[0]?.map Token.kind with
        | some .titleKeyword =>
          (Line.read text).tokens[1]?.bind fun title ↦
            (nextKeyByPlace? settings rest (asked + 1)).map fun (outcome, source) ↦
              (outcome.map (·.map fun next ↦ (title.text, next)), source)
        | some .keyKeyword =>
          (bindingByPlace? settings (Line.read text).tokens).map fun outcome ↦
            (outcome.map (·.map fun b ↦ ([], some b)), ⟨rest, asked + 1, false⟩)
        | _ =>
          (openingByPlace? settings rest (asked + 1)).map fun (outcome, source) ↦
            (outcome.after (Line.read text).notes, source)

variable {settings : Settings}

/-- The tokens of a key line are where they are looked for. -/
theorem bindingByPlace?_tokens (descriptor : Text) (action : Action) :
    bindingByPlace? settings (Line.key descriptor action).tokens =
      some (bindingOf settings descriptor action) := by
  cases action <;> rfl

theorem nextKeyByPlace?_eq (lines : List RawLine) (asked : Nat) :
    nextKeyByPlace? settings lines asked = some (nextKey settings lines asked) := by
  induction lines generalizing asked with
  | nil => rfl
  | cons line rest ih =>
    rw [nextKeyByPlace?, nextKey]
    split_ifs with hempty
    · rfl
    · cases line.decode settings.inputEncoding with
      | error fault => rfl
      | ok text =>
        dsimp only
        cases Line.read text with
        | key descriptor action =>
          rw [bindingByPlace?_tokens]
          rfl
        | nothing | title _ | unreadable _ =>
          rw [ih]
          rfl

theorem openingByPlace?_eq (lines : List RawLine) (asked : Nat) :
    openingByPlace? settings lines asked = some (opening settings lines asked) := by
  induction lines generalizing asked with
  | nil => rfl
  | cons line rest ih =>
    rw [openingByPlace?, opening]
    split_ifs with hempty
    · rfl
    · cases line.decode settings.inputEncoding with
      | error fault => rfl
      | ok text =>
        dsimp only
        cases Line.read text with
        | key descriptor action =>
          rw [bindingByPlace?_tokens]
          rfl
        | title title =>
          rw [nextKeyByPlace?_eq]
          rfl
        | nothing | unreadable _ =>
          rw [ih]
          rfl

/-! ### Output on one line -/

/-- Output that is one line for a terminal with the encoding of a name. Where nothing goes by the
name there is no output at all. In UTF-16 the bytes of a line end may be parts of other characters.
-/
structure IsOneLine (name : Text) (output : Bytes) : Prop where
  eq_nil : ∀ fault, Encoding.find .encode name = .error fault → output = []
  shown : ∀ encoding, Encoding.find .encode name = .ok encoding →
    ∀ c ∈ encoding.decode output, isLineBreak c = false
  bytes : ∀ encoding, Encoding.find .encode name = .ok encoding → encoding ≠ .utf16le →
    0x0A ∉ output ∧ 0x0D ∉ output

theorem isOneLine_nil (name : Text) : IsOneLine name [] where
  eq_nil _ _ := rfl
  shown encoding _ c hc := by cases encoding <;> exact absurd hc List.not_mem_nil
  bytes _ _ _ := ⟨List.not_mem_nil, List.not_mem_nil⟩

theorem isOneLine_encode {name body : Text} {encoding : Encoding}
    (hname : Encoding.find .encode name = .ok encoding)
    (hbody : ∀ c ∈ body, isLineBreak c = false) : IsOneLine name (encoding.encode body) where
  eq_nil fault hfault := nomatch hname.symm.trans hfault
  shown found hfound c hc := by
    obtain rfl := Except.ok.inj (hname.symm.trans hfound)
    rw [Encoding.decode_encode_eq] at hc
    obtain ⟨d, hd, rfl⟩ := List.mem_map.mp hc
    rcases encoding.kept_eq_or d with hkept | hkept
    · rw [hkept, hbody d hd]
    · rw [hkept]
      decide
  bytes found hfound hne := by
    obtain rfl := Except.ok.inj (hname.symm.trans hfound)
    have hfree : ∀ byte : UInt8, byte.toNat < 0x80 → byte ≠ 0x3F →
        isLineBreak (Char.ofNat byte.toNat) = true → byte ∉ encoding.encode body := by
      intro byte hascii hmark hbreak hmem
      rcases Encoding.exists_of_mem_encode hne hmem hascii with hbyte | ⟨c, hc, hcode⟩
      · exact hmark hbyte
      · rw [← hcode, Char.ofNat_toNat, hbody c hc] at hbreak
        exact Bool.false_ne_true hbreak
    exact ⟨hfree 0x0A (by decide) (by decide) (by decide),
      hfree 0x0D (by decide) (by decide) (by decide)⟩

/-- The output of a binding is written of the text that its line sends. -/
theorem exists_of_bindingOf {descriptor : Text} {action : Action} {binding : Binding}
    (h : (bindingOf settings descriptor action).value = .ok binding) :
    binding.text = [] ∨
      ∃ body encoding, action = .send body ∧
        Encoding.find .encode settings.outputEncoding = .ok encoding ∧
        binding.text = encoding.encode body := by
  cases action with
  | send body =>
    simp only [bindingOf, Noted.bind, Encoding.encodeAs] at h
    cases hname : Encoding.find .encode settings.outputEncoding with
    | error fault =>
      rw [hname] at h
      cases h
    | ok encoding =>
      rw [hname] at h
      obtain rfl := Except.ok.inj h
      exact Or.inr ⟨body, encoding, rfl, rfl, rfl⟩
  | command word =>
    obtain rfl := Except.ok.inj h
    exact Or.inl rfl

theorem isOneLine_of_entryOf? {line : RawLine} {binding : Binding}
    (h : entryOf? settings line = some (.ok binding)) :
    IsOneLine settings.outputEncoding binding.text := by
  unfold entryOf? at h
  split at h
  · cases h
  · next text _ =>
    split at h
    · next descriptor action hread =>
      rcases exists_of_bindingOf (Option.some.inj h) with hnil | ⟨body, encoding, rfl, hname, htext⟩
      · rw [hnil]
        exact isOneLine_nil _
      · have htoken : ⟨.outputText, body⟩ ∈ (Line.read text).tokens := by
          simp [hread, Line.tokens, Action.token]
        have hclean := (Line.isRow_read text).clean _ htoken
        rw [htext]
        exact isOneLine_encode hname fun c hc ↦ hclean.isLineBreak_eq_false hc
    · cases h

/-- The tokens of any line are none, those of a title or those of a key line, each clean for its
kind and without line breaks. A reader of any lines that takes them by their places never misses
one. The description that it has, and the output of every binding that it hands out, are on one
line. -/
theorem isRow_read_and_isOneLine (settings : Settings) (lines : List RawLine) :
    (∀ line : Text, Line.IsRow (Line.read line).tokens ∧
        ∀ token ∈ (Line.read line).tokens, ∀ c ∈ token.text, isLineBreak c = false) ∧
      (∀ asked, openingByPlace? settings lines asked = some (opening settings lines asked) ∧
        nextKeyByPlace? settings lines asked = some (nextKey settings lines asked)) ∧
      ∀ reader, (start settings lines).1.value = .ok reader →
        (∀ c ∈ reader.description, isLineBreak c = false) ∧
          ∀ binding, reader.Yields binding → IsOneLine settings.outputEncoding binding.text := by
  refine ⟨fun line ↦ ?_, fun asked ↦ ?_, fun reader hstart ↦ ⟨?_, fun binding hyields ↦ ?_⟩⟩
  · have hrow := Line.isRow_read line
    exact ⟨hrow, fun token htoken c hc ↦ (hrow.clean token htoken).isLineBreak_eq_false hc⟩
  · exact ⟨openingByPlace?_eq lines asked, nextKeyByPlace?_eq lines asked⟩
  · have htitle : Line.IsTitle reader.description :=
      (takeAll_of_start hstart).1 ▸ isTitle_titleOf settings lines
    exact fun c hc ↦ isLineBreak_eq_false (htitle.isSpaced.eq_space c hc)
  · obtain ⟨line, -, hentry⟩ := exists_line_of_yields hstart hyields
    exact isOneLine_of_entryOf? hentry

/-- Quotes that leave neighbouring blanks in a title, a line break of Unicode in a text, and a
character whose first byte in UTF-16 is that of a line end. -/
theorem isRow_read_and_isOneLine_utf16le :
    ∃ reader,
      (start { Settings.trial with outputEncoding := "utf-16-le".toList }
          [.text "keyboard \"a\" \"\" \"b\"\n".toList,
            .text "key A : \"\u010a\u2028z\"\n".toList]).1.value = .ok reader ∧
        reader.description = "a b".toList ∧
        reader.take.1.value = .ok ⟨⟨0x41, 0, 0, 0, 0⟩, .none, [0x0A, 0x01, 0x20, 0, 0x7A, 0]⟩ ∧
        Encoding.utf16le.decode [0x0A, 0x01, 0x20, 0, 0x7A, 0] = "\u010a z".toList ∧
        ∀ c ∈ Encoding.utf16le.decode [0x0A, 0x01, 0x20, 0, 0x7A, 0], isLineBreak c = false := by
  have hread : ((start { Settings.trial with outputEncoding := "utf-16-le".toList }
      [.text "keyboard \"a\" \"\" \"b\"\n".toList,
        .text "key A : \"\u010a\u2028z\"\n".toList]).1.value.map
        fun reader ↦ (reader.description, reader.take.1.value)) =
      .ok ("a b".toList, .ok ⟨⟨0x41, 0, 0, 0, 0⟩, .none, [0x0A, 0x01, 0x20, 0, 0x7A, 0]⟩) := by
    decide +kernel
  obtain ⟨-, -, hreader⟩ := isRow_read_and_isOneLine
    { Settings.trial with outputEncoding := "utf-16-le".toList }
    [.text "keyboard \"a\" \"\" \"b\"\n".toList,
      .text "key A : \"\u010a\u2028z\"\n".toList]
  cases hstart : (start { Settings.trial with outputEncoding := "utf-16-le".toList }
      [.text "keyboard \"a\" \"\" \"b\"\n".toList,
        .text "key A : \"\u010a\u2028z\"\n".toList]).1.value with
  | error fault =>
    rw [hstart] at hread
    exact nomatch hread
  | ok reader =>
    rw [hstart] at hread
    obtain ⟨hdescription, htake⟩ := Prod.mk.inj (Except.ok.inj hread)
    have houtput := (hreader reader hstart).2 _ (.now htake)
    exact ⟨reader, rfl, hdescription, htake, by decide +kernel,
      houtput.shown .utf16le (by decide +kernel)⟩

end Reader

end TermKeys
