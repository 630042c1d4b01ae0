import Mathlib.Tactic.SplitIfs
import TermKeys.Encoding.Named
import TermKeys.Encoding.Utf8.Lemmas
import TermKeys.Proofs.Text.Lines
import TermKeys.Report

/-!
Texts and their bytes in UTF-8, for whole documents: the bytes of a text are read as that text,
bytes in ASCII are read one by one, and it makes no difference whether a text is cut into lines
before it is written or after.
-/

set_option autoImplicit false

namespace TermKeys

open Binding (asciiText)

/-! ### Bytes in ASCII -/

theorem toNat_ofNat_toNat (byte : UInt8) : (Char.ofNat byte.toNat).toNat = byte.toNat := by
  have hvalid : byte.toNat.isValidChar := Or.inl (by have := byte.toNat_lt; omega)
  rw [Char.ofNat, dif_pos hvalid]
  rfl

theorem mem_asciiText {bytes : Bytes} {c : Char} :
    c ∈ asciiText bytes ↔ ∃ byte ∈ bytes, Char.ofNat byte.toNat = c := List.mem_map

/-- Different bytes are different characters. -/
theorem ofNat_toNat_inj {first second : UInt8} :
    Char.ofNat first.toNat = Char.ofNat second.toNat ↔ first = second := by
  constructor
  · intro h
    have hcode := congrArg Char.toNat h
    rw [toNat_ofNat_toNat, toNat_ofNat_toNat] at hcode
    exact UInt8.toNat_inj.mp hcode
  · exact fun h ↦ h ▸ rfl

theorem ofNat_mem_asciiText {bytes : Bytes} {byte : UInt8} :
    Char.ofNat byte.toNat ∈ asciiText bytes ↔ byte ∈ bytes := by
  rw [mem_asciiText]
  constructor
  · rintro ⟨other, hother, heq⟩
    exact ofNat_toNat_inj.mp heq ▸ hother
  · exact fun h ↦ ⟨byte, h, rfl⟩

theorem count_asciiText (bytes : Bytes) (byte : UInt8) :
    (asciiText bytes).count (Char.ofNat byte.toNat) = bytes.count byte := by
  induction bytes with
  | nil => rfl
  | cons first rest ih =>
    rw [asciiText, List.map_cons, List.count_cons, List.count_cons, ← asciiText, ih]
    simp [ofNat_toNat_inj]

@[simp] theorem asciiText_cons (byte : UInt8) (rest : Bytes) :
    asciiText (byte :: rest) = Char.ofNat byte.toNat :: asciiText rest := rfl

@[simp] theorem asciiText_append (first second : Bytes) :
    asciiText (first ++ second) = asciiText first ++ asciiText second := List.map_append

/-- Bytes in ASCII are read one by one. -/
theorem decode_ascii {bytes : Bytes} (h : ∀ byte ∈ bytes, byte.toNat < 0x80) :
    Encoding.utf8.decode bytes = asciiText bytes := by
  have hscan : Utf8.scan bytes = bytes.map fun byte ↦ some (Char.ofNat byte.toNat) := by
    induction bytes with
    | nil => rfl
    | cons byte rest ih =>
      have hrest := ih fun b hb ↦ h b (List.mem_cons_of_mem _ hb)
      have hbyte := Utf8.scan_append_ascii [] (h byte List.mem_cons_self) rest
      rw [List.nil_append] at hbyte
      rw [hbyte, hrest]
      rfl
  rw [Encoding.decode, Encoding.scan, hscan, List.map_map, asciiText]
  rfl

/-- A text in ASCII is written one byte for a character. -/
theorem encode_asciiText {bytes : Bytes} (h : ∀ byte ∈ bytes, byte.toNat < 0x80) :
    Utf8.encode (asciiText bytes) = bytes := by
  induction bytes with
  | nil => rfl
  | cons byte rest ih =>
    have hbyte := h byte List.mem_cons_self
    have hone : Utf8.encodeChar (Char.ofNat byte.toNat) = [byte] := by
      rw [Utf8.encodeChar, toNat_ofNat_toNat, if_pos hbyte, UInt8.ofNat_toNat]
    have hrest := ih fun b hb ↦ h b (List.mem_cons_of_mem _ hb)
    rw [asciiText_cons, Utf8.encode, List.flatMap_cons, hone, ← Utf8.encode, hrest]
    rfl

/-! ### Documents -/

/-- The bytes of a text are read as that text. -/
theorem decode_encode (text : Text) : Encoding.utf8.decode (Utf8.encode text) = text := by
  rw [Encoding.decode, Encoding.scan, Utf8.scan_encode, List.map_map]
  exact List.map_id' text

/-- A character is written as its code point, in one byte, or in bytes outside ASCII. -/
theorem encodeChar_cases (c : Char) :
    c.toNat < 0x80 ∧ Utf8.encodeChar c = [UInt8.ofNat c.toNat] ∨
      0x80 ≤ c.toNat ∧ Utf8.encodeChar c ≠ [] ∧ ∀ byte ∈ Utf8.encodeChar c, 0x80 ≤ byte.toNat := by
  have hvalid : c.toNat < 0xD800 ∨ 0xDFFF < c.toNat ∧ c.toNat < 0x110000 := c.valid
  unfold Utf8.encodeChar
  generalize c.toNat = n at *
  dsimp only
  split_ifs with h1 h2 h3
  · exact Or.inl ⟨h1, rfl⟩
  all_goals
    refine Or.inr ⟨Nat.le_of_not_lt h1, List.cons_ne_nil _ _, fun byte hbyte ↦ ?_⟩
    simp only [List.mem_cons, List.not_mem_nil, or_false] at hbyte
    rcases hbyte with rfl | hbyte
    · rw [UInt8.toNat_ofNat']
      omega
  · obtain rfl := hbyte
    rw [UInt8.toNat_ofNat']
    omega
  · rcases hbyte with rfl | rfl <;> rw [UInt8.toNat_ofNat'] <;> omega
  · rcases hbyte with rfl | rfl | rfl <;> rw [UInt8.toNat_ofNat'] <;> omega

/-- The bytes of a character other than a line end are at least one and no line end. -/
theorem lineEnd_not_mem_encodeChar {c : Char} (h : c ≠ '\n') :
    Utf8.encodeChar c ≠ [] ∧ 0x0A ∉ Utf8.encodeChar c := by
  rcases encodeChar_cases c with ⟨hascii, hone⟩ | ⟨-, hne, hhigh⟩
  · refine ⟨by simp [hone], fun hmem ↦ h ?_⟩
    rw [hone, List.mem_singleton] at hmem
    have hcode := congrArg UInt8.toNat hmem
    rw [UInt8.toNat_ofNat', Nat.mod_eq_of_lt (by omega)] at hcode
    exact Char.toNat_inj.mp hcode.symm
  · exact ⟨hne, fun hmem ↦ absurd (hhigh _ hmem) (by decide)⟩

/-- A document is cut into the same lines before it is written and after. -/
theorem linesBy_encode (text : Text) :
    Text.linesBy 0x0A (Utf8.encode text) = (Text.linesBy '\n' text).map Utf8.encode := by
  induction text with
  | nil => rfl
  | cons c rest ih =>
    rw [Utf8.encode, List.flatMap_cons, ← Utf8.encode, Text.linesBy]
    by_cases hc : c = '\n'
    · subst hc
      have hone : Utf8.encodeChar '\n' = [0x0A] := by decide
      rw [hone, List.singleton_append, Text.linesBy, if_pos rfl, if_pos rfl, ih]
      rfl
    · obtain ⟨hne, hfree⟩ := lineEnd_not_mem_encodeChar hc
      rw [Text.linesBy_append_of_not_mem hne hfree, ih, if_neg hc]
      cases Text.linesBy '\n' rest with
      | nil => simp [Utf8.encode]
      | cons line lines => simp [Utf8.encode]

end TermKeys
