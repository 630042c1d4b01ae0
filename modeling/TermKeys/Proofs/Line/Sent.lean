import Mathlib.Data.List.Infix
import TermKeys.Proofs.Encoding.Utf8
import TermKeys.Proofs.Escape
import TermKeys.Proofs.Line
import TermKeys.Proofs.Reader.Utf8

/-!
Key lines that send output, written and read again. Three things can befall the output on its way.
A number sign may begin a comment, so that the rest of the line is lost; neighbouring spaces become
one; and a backslash, which is written as it is, may make an escape with what follows. `Survives`
says that none of them does. Each makes the output that is read shorter and none makes it longer, so
the output comes back just when nothing befalls it (`length_output_sent`).
-/

set_option autoImplicit false

namespace TermKeys

open Binding (asciiText)
open Escape (backslash opens expand write writeByte)
open Unicode

/-! ### What may befall output -/

/-- The bytes that have a meaning of their own in a line. -/
def spaceByte : UInt8 := 0x20

@[inherit_doc spaceByte] def quoteByte : UInt8 := 0x22

@[inherit_doc spaceByte] def hashByte : UInt8 := 0x23

/-- Output that is read back from a line as it was before it was written. -/
structure Survives (output : Bytes) : Prop where
  /-- No two spaces are neighbours. -/
  spaces : ∀ after, ¬ spaceByte :: spaceByte :: after <:+ output
  /-- Every number sign has an even number of quotes after it. -/
  hashes : ∀ after, hashByte :: after <:+ output → after.count quoteByte % 2 = 0
  /-- No backslash makes an escape with what follows. -/
  escapes : ∀ after, backslash :: after <:+ output → opens after = false

/-- Whether nothing befalls the first byte of some output. -/
def survivesHere : Bytes → Bool
  | [] => true
  | byte :: after =>
    !(byte == spaceByte && after.head? == some spaceByte) &&
      !(byte == hashByte && after.count quoteByte % 2 != 0) &&
      !(byte == backslash && opens after)

theorem survives_iff_tails (output : Bytes) :
    Survives output ↔ ∀ rest ∈ output.tails, survivesHere rest = true := by
  simp only [List.mem_tails]
  constructor
  · intro h rest hrest
    cases rest with
    | nil => rfl
    | cons byte after =>
      simp only [survivesHere, Bool.and_eq_true, Bool.not_eq_true', Bool.and_eq_false_imp,
        beq_iff_eq, bne_eq_false_iff_eq]
      refine ⟨⟨?_, ?_⟩, ?_⟩
      · rintro rfl
        rw [beq_eq_false_iff_ne]
        intro hhead
        obtain ⟨more, rfl⟩ := List.head?_eq_some_iff.mp hhead
        exact h.spaces more hrest
      · rintro rfl
        exact h.hashes after hrest
      · rintro rfl
        exact h.escapes after hrest
  · intro h
    refine ⟨fun after hsuffix ↦ ?_, fun after hsuffix ↦ ?_, fun after hsuffix ↦ ?_⟩
    · exact absurd (h _ hsuffix) (by simp [survivesHere])
    · simpa [survivesHere, hashByte, spaceByte, backslash] using h _ hsuffix
    · simpa [survivesHere, hashByte, spaceByte, backslash] using h _ hsuffix

instance (output : Bytes) : Decidable (Survives output) :=
  decidable_of_iff _ (survives_iff_tails output).symm

/-- Output with one space for every run of them. -/
def squeeze (output : Bytes) : Bytes := Text.spacedFrom (· == spaceByte) spaceByte false output

theorem length_squeeze_le (output : Bytes) : (squeeze output).length ≤ output.length :=
  (Text.spacedFrom_sublist spaceByte false output).length_le

theorem squeeze_eq_self_iff {output : Bytes} :
    squeeze output = output ↔ ∀ after, ¬ spaceByte :: spaceByte :: after <:+ output := by
  rw [squeeze, Text.spacedFrom_eq_self_iff]
  simp

theorem length_expand_squeeze_le (output : Bytes) :
    (expand (squeeze output)).length ≤ output.length :=
  Nat.le_trans (Escape.length_expand_le _) (length_squeeze_le output)

/-- If the lengths agree, no run of spaces and no escape has been lost. -/
theorem survives_of_length {output : Bytes}
    (hhashes : ∀ after, hashByte :: after <:+ output → after.count quoteByte % 2 = 0)
    (hlength : (expand (squeeze output)).length = output.length) : Survives output := by
  have hexpand := Escape.length_expand_le (squeeze output)
  have hsqueeze : squeeze output = output :=
    (Text.spacedFrom_sublist spaceByte false output).eq_of_length
      (Nat.le_antisymm (length_squeeze_le output) (hlength ▸ hexpand))
  rw [hsqueeze] at hlength
  exact ⟨squeeze_eq_self_iff.mp hsqueeze, hhashes,
    fun _ hsuffix ↦ Escape.opens_of_length_expand hlength hsuffix⟩

/-! ### Written output -/

theorem writeByte_plain : ∀ byte : UInt8,
    (writeByte byte).count quoteByte = (if byte = quoteByte then 1 else 0) ∧
      (byte ≠ hashByte → hashByte ∉ writeByte byte) ∧
      (byte ≠ spaceByte → spaceByte ∉ writeByte byte) ∧ writeByte byte ≠ [] :=
  Escape.forall_byte (by decide +kernel)

theorem writeByte_space : writeByte spaceByte = [spaceByte] := by decide

theorem count_write (output : Bytes) :
    (write output).count quoteByte = output.count quoteByte := by
  induction output with
  | nil => rfl
  | cons byte rest ih =>
    rw [Escape.write_cons, List.count_append, (writeByte_plain byte).1, ih, List.count_cons,
      Nat.add_comm]
    simp

theorem toNat_lt_of_mem_write {output : Bytes} {byte : UInt8} (h : byte ∈ write output) :
    byte.toNat < 0x80 :=
  Nat.lt_trans (UInt8.lt_iff_toNat_lt.mp (Escape.printable_of_mem_write h).2) (by decide)

theorem isBlank_of_mem_write {output : Bytes} {byte : UInt8} (h : byte ∈ write output)
    (hspace : byte ≠ spaceByte) : isBlank (Char.ofNat byte.toNat) = false := by
  have hall : ∀ byte : UInt8, 0x20 ≤ byte → byte < 0x7F → byte ≠ spaceByte →
      isBlank (Char.ofNat byte.toNat) = false := Escape.forall_byte (by decide +kernel)
  obtain ⟨hlow, hhigh⟩ := Escape.printable_of_mem_write h
  exact hall byte hlow hhigh hspace

/-- Bringing written output one space apart squeezes it. -/
theorem spaced_asciiText_write (output : Bytes) :
    Text.spaced (asciiText (write output)) = asciiText (write (squeeze output)) := by
  have hflatMap : ∀ bytes : Bytes, asciiText (write bytes) =
      bytes.flatMap fun byte ↦ asciiText (writeByte byte) := fun bytes ↦ List.map_flatMap
  rw [hflatMap, hflatMap]
  refine Text.spacedFrom_flatMap (by rw [writeByte_space]; rfl) (fun byte hbyte ↦ ?_)
    (fun byte hbyte ↦ ?_) false output
  · rw [beq_iff_eq.mp hbyte, writeByte_space]
    exact ⟨_, rfl, by decide⟩
  · obtain ⟨-, -, hspace, hne⟩ := writeByte_plain byte
    have hother : byte ≠ spaceByte := beq_eq_false_iff_ne.mp hbyte
    refine ⟨by simpa [asciiText] using hne, fun c hc ↦ ?_⟩
    obtain ⟨written, hwritten, rfl⟩ := mem_asciiText.mp hc
    have hmem : written ∈ write [byte] := by simpa [write] using hwritten
    exact isBlank_of_mem_write hmem fun heq ↦ hspace hother (heq ▸ hwritten)

/-! ### The line of some output -/

namespace Line

theorem count_quote_written (output : Bytes) :
    (asciiText (write output)).count '"' = output.count quoteByte :=
  (count_asciiText (write output) quoteByte).trans (count_write output)

theorem quote_not_mem_written {output : Bytes} (h : quoteByte ∉ output) :
    '"' ∉ asciiText (write output) := by
  rw [← List.count_eq_zero, count_quote_written, List.count_eq_zero_of_not_mem h]

/-- A line with output loses nothing to a comment, or all that stands behind a number sign with an
odd number of quotes after it. -/
theorem dropComment_lineEnd (output : Bytes) :
    ((∀ after, hashByte :: after <:+ output → after.count quoteByte % 2 = 0) ∧
      dropComment (asciiText (write output) ++ '"' :: ['\n']) =
        asciiText (write output) ++ '"' :: ['\n']) ∨
      ∃ front back, output = front ++ hashByte :: back ∧ back.count quoteByte % 2 = 1 ∧
        dropComment (asciiText (write output) ++ '"' :: ['\n']) = asciiText (write front) := by
  induction output with
  | nil => exact Or.inl ⟨by simp, by decide⟩
  | cons byte rest ih =>
    have hcount : (asciiText (write rest) ++ '"' :: ['\n']).count '"' =
        rest.count quoteByte + 1 := by
      rw [List.count_append, count_quote_written]
      rfl
    rw [Escape.write_cons, asciiText_append, List.append_assoc]
    by_cases hbyte : byte = hashByte
    · subst hbyte
      have hwritten : asciiText (writeByte hashByte) = ['#'] := by decide
      rw [hwritten, List.singleton_append]
      by_cases heven : rest.count quoteByte % 2 = 0
      · have hkept : dropComment ('#' :: (asciiText (write rest) ++ '"' :: ['\n'])) =
            '#' :: dropComment (asciiText (write rest) ++ '"' :: ['\n']) := by
          rw [dropComment, if_neg fun h ↦ by omega]
        rw [hkept]
        rcases ih with ⟨hrest, hsame⟩ | ⟨front, back, rfl, hodd, hcut⟩
        · refine Or.inl ⟨fun after hsuffix ↦ ?_, by rw [hsame]⟩
          rcases List.suffix_cons_iff.mp hsuffix with heq | hsuffix
          · rw [(List.cons.inj heq).2, heven]
          · exact hrest after hsuffix
        · exact Or.inr ⟨hashByte :: front, back, rfl, hodd, by rw [hcut]; rfl⟩
      · exact Or.inr ⟨[], rest, rfl, by omega, dropComment_hash (by omega)⟩
    · have hfree : '#' ∉ asciiText (writeByte byte) := fun hmem ↦
        (writeByte_plain byte).2.1 hbyte (ofNat_mem_asciiText.mp hmem)
      rw [dropComment_append_of_not_mem hfree]
      rcases ih with ⟨hrest, hsame⟩ | ⟨front, back, rfl, hodd, hcut⟩
      · refine Or.inl ⟨fun after hsuffix ↦ ?_, by rw [hsame]⟩
        rcases List.suffix_cons_iff.mp hsuffix with heq | hsuffix
        · exact absurd (List.cons.inj heq).1.symm hbyte
        · exact hrest after hsuffix
      · refine Or.inr ⟨byte :: front, back, rfl, hodd, ?_⟩
        rw [hcut, Escape.write_cons, asciiText_append]

theorem dropComment_quote (rest : Text) : dropComment ('"' :: rest) = '"' :: dropComment rest := by
  rw [dropComment, if_neg fun h ↦ absurd h.1 (by decide)]

/-- What follows the colon in a line that sends some output, up to the end of the line. -/
def sentText (output : Bytes) : Text := '"' :: (asciiText (write output) ++ '"' :: ['\n'])

/-- A line that sends some output, with its end. -/
def sent (condition : Text) (output : Bytes) : Text :=
  "key ".toList ++ condition ++ " : ".toList ++ sentText output

theorem plain_quoted (output : Bytes) (tail : Text) :
    Text.plain ('"' :: (asciiText (write output) ++ '"' :: tail)) =
      '"' :: asciiText (write (squeeze output)) ++ Text.plain ('"' :: tail) := by
  have hquote : isBlank '"' = false := by decide
  have hplain := Text.plain_cons_append hquote hquote (asciiText (write output)) tail
  rwa [spaced_asciiText_write] at hplain

/-- Behind the only quote of a text there is none in its plain form. -/
theorem exists_plain_quote {text : Text} (h : '"' ∉ text) :
    ∃ rest, Text.plain ('"' :: text) = '"' :: rest ∧ '"' ∉ rest := by
  have hquote : isBlank '"' = false := by decide
  obtain ⟨rest, hrest⟩ := Text.exists_plain_cons hquote text
  have hcount := Text.count_plain hquote ('"' :: text)
  rw [hrest, List.count_cons_self, List.count_cons_self, List.count_eq_zero_of_not_mem h] at hcount
  exact ⟨rest, hrest, List.count_eq_zero.mp (Nat.succ.inj hcount)⟩

theorem words_sentText (output : Bytes) : Text.words (dropComment (sentText output)) ≠ [] := by
  rw [sentText, dropComment_quote]
  exact Text.words_ne_nil List.mem_cons_self (by decide)

/-- A line that loses nothing to a comment is read as its output with fewer spaces. -/
theorem read_sent {condition : Text} (hcondition : IsCondition condition) {output : Bytes}
    (hkept : dropComment (sentText output) = sentText output) :
    read (sent condition output) =
      .key (condition.filter fun c ↦ !isBlank c) (.send (asciiText (write (squeeze output)))) := by
  have hend : Text.plain ['"', '\n'] = ['"'] := by decide
  refine read_keyLine hcondition (words_sentText output) ?_
  rw [hkept, sentText, plain_quoted, hend]
  exact action?_send List.not_mem_nil _

/-- A line that loses its end to a comment is read as a part of its output, or sends nothing. -/
theorem read_sent_of_cut {condition : Text} (hcondition : IsCondition condition)
    {output front : Bytes} (hcut : dropComment (sentText output) = '"' :: asciiText (write front))
    {descriptor : Text} {action : Action}
    (h : read (sent condition output) = .key descriptor action) :
    (∃ first last, front = first ++ quoteByte :: last ∧
        action = .send (asciiText (write (squeeze first)))) ∨
      ∃ word, action = .command word := by
  have hwords := words_sentText output
  by_cases hquote : quoteByte ∈ front
  · obtain ⟨back, ahead, hsplit, hlast⟩ :=
      List.eq_append_cons_of_mem (List.mem_reverse.mpr hquote)
    have hfront : front = ahead.reverse ++ quoteByte :: back.reverse := by
      simpa using congrArg List.reverse hsplit
    have hwritten : asciiText (write front) = asciiText (write ahead.reverse) ++
        '"' :: asciiText (write back.reverse) := by
      rw [hfront, Escape.write_append, Escape.write_cons, asciiText_append, asciiText_append]
      rfl
    have hfree : quoteByte ∉ back.reverse := by simpa using hlast
    obtain ⟨tail, hplain, htail⟩ := exists_plain_quote (quote_not_mem_written hfree)
    have haction : action? (' ' :: Text.plain (dropComment (sentText output))) =
        some (.send (asciiText (write (squeeze ahead.reverse)))) := by
      rw [hcut, hwritten, plain_quoted, hplain]
      exact action?_send htail _
    rw [sent, read_keyLine hcondition hwords haction] at h
    exact Or.inl ⟨_, _, hfront, (Line.key.inj h).2.symm⟩
  · obtain ⟨tail, hplain, htail⟩ := exists_plain_quote (quote_not_mem_written hquote)
    have haction : action? (' ' :: Text.plain (dropComment (sentText output))) = none := by
      rw [hcut, hplain]
      exact action?_unclosed htail
    obtain ⟨before, hsplit⟩ := read_keyLine_of_none hcondition hwords haction h
    cases action with
    | command word => exact Or.inr ⟨word, rfl⟩
    | send body =>
      have htwo := two_le_count_of_splitAction? hsplit
      rw [hcut, hplain, List.count_cons_of_ne (by decide), List.count_cons_self,
        List.count_eq_zero_of_not_mem htail] at htwo
      omega

end Line

/-! ### The binding of the line -/

namespace Reader

open Line

theorem output_bindingFor_send (descriptor : Text) (output : Bytes) :
    (bindingFor descriptor (.send (asciiText (write output)))).output = expand output := by
  have hencode := encode_asciiText fun byte (hbyte : byte ∈ write output) ↦
    toNat_lt_of_mem_write hbyte
  rw [Binding.output, bindingFor]
  dsimp only
  rw [hencode, Escape.expand_write]

/-- Output that nothing befalls is read as it was written. -/
theorem bindingOf?_sent {condition : Text} (hcondition : IsCondition condition) {output : Bytes}
    (h : Survives output) :
    bindingOf? (sent condition output) =
      some (bindingFor (condition.filter fun c ↦ !isBlank c)
        (.send (asciiText (write output)))) := by
  have hkept : dropComment (sentText output) = sentText output := by
    rw [sentText, dropComment_quote]
    rcases dropComment_lineEnd output with ⟨-, hsame⟩ |
      ⟨front, back, rfl, hodd, -⟩
    · rw [hsame]
    · have heven := h.hashes back (List.suffix_append _ _)
      omega
  rw [bindingOf?, read_sent hcondition hkept, squeeze_eq_self_iff.mpr h.spaces]

/-- Output gets no longer in its line, and keeps its length only if nothing befalls it. -/
theorem length_output_sent {condition : Text} (hcondition : IsCondition condition) {output : Bytes}
    {back : Binding} (h : bindingOf? (sent condition output) = some back) :
    back.output.length ≤ output.length ∧
      (back.output.length = output.length → Survives output) := by
  rcases dropComment_lineEnd output with ⟨hhashes, hsame⟩ |
    ⟨front, rest, hsplit, hodd, hcut⟩
  · have hkept : dropComment (sentText output) = sentText output := by
      rw [sentText, dropComment_quote, hsame]
    rw [bindingOf?, read_sent hcondition hkept] at h
    obtain rfl := Option.some.inj h
    rw [output_bindingFor_send]
    exact ⟨length_expand_squeeze_le output, survives_of_length hhashes⟩
  · suffices hshort : back.output.length < output.length from
      ⟨Nat.le_of_lt hshort, fun heq ↦ absurd heq (Nat.ne_of_lt hshort)⟩
    have hdropped : dropComment (sentText output) = '"' :: asciiText (write front) := by
      rw [sentText, dropComment_quote, hcut]
    have hlength : front.length < output.length := by
      rw [hsplit, List.length_append, List.length_cons]
      omega
    unfold bindingOf? at h
    split at h
    · next descriptor action hread =>
      obtain rfl := Option.some.inj h
      rcases read_sent_of_cut hcondition hdropped hread with ⟨first, last, hfront, rfl⟩ |
        ⟨word, rfl⟩
      · rw [output_bindingFor_send]
        have hfirst := length_expand_squeeze_le first
        rw [hfront, List.length_append, List.length_cons] at hlength
        omega
      · exact Nat.zero_lt_of_lt hlength
    · simp at h

end Reader

end TermKeys
