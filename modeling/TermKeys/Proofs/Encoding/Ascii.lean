import TermKeys.Proofs.Encoding.Utf8

/-!
Bytes and texts in ASCII, in every encoding. UTF-8, Latin-1 and ASCII itself agree on them, in
reading (`decode_ascii_of_ne`) and in writing (`encode_ascii_of_ne`). UTF-16 reads two bytes as one
character, so no printable bytes are read by it as they stand (`decode_utf16le_ne`).
-/

set_option autoImplicit false

namespace TermKeys.Encoding

open Binding (asciiText)

variable {encoding : Encoding}

/-- Every encoding but UTF-16 reads bytes in ASCII one by one. -/
theorem decode_ascii_of_ne (h : encoding ≠ .utf16le) {bytes : Bytes}
    (hascii : ∀ byte ∈ bytes, byte.toNat < 0x80) : encoding.decode bytes = asciiText bytes := by
  cases encoding with
  | utf8 => exact decode_ascii hascii
  | latin1 =>
    rw [decode, scan, List.map_map]
    rfl
  | ascii =>
    rw [decode, scan, List.map_map]
    refine List.map_congr_left fun byte hbyte ↦ ?_
    have hlow : byte < 0x80 := UInt8.lt_iff_toNat_lt.mpr (hascii byte hbyte)
    rw [Function.comp_apply, if_pos hlow]
    rfl
  | utf16le => exact absurd rfl h

/-- Every encoding but UTF-16 writes a character in ASCII as one byte. -/
theorem encodeChar?_ascii_of_ne (h : encoding ≠ .utf16le) {c : Char} (hc : c.toNat < 0x80) :
    encoding.encodeChar? c = some [UInt8.ofNat c.toNat] := by
  cases encoding with
  | utf8 => rw [encodeChar?, Utf8.encodeChar, if_pos hc]
  | latin1 => rw [encodeChar?, if_pos (Nat.lt_trans hc (by decide))]
  | ascii => rw [encodeChar?, if_pos hc]
  | utf16le => exact absurd rfl h

theorem encode_ascii_of_ne (h : encoding ≠ .utf16le) {text : Text}
    (hascii : ∀ c ∈ text, c.toNat < 0x80) : encoding.encode text = Utf8.encode text := by
  rw [encode, Utf8.encode, List.flatMap_def, List.flatMap_def]
  refine congrArg List.flatten (List.map_congr_left fun c hc ↦ ?_)
  rw [encodeChar?_ascii_of_ne h (hascii c hc), Utf8.encodeChar, if_pos (hascii c hc)]
  rfl

/-- Two bytes in ASCII are one character to UTF-16. -/
theorem scan_utf16le_cons_cons {low high : UInt8} (hlow : low.toNat < 0x80)
    (hhigh : high.toNat < 0x80) (rest : Bytes) :
    utf16le.scan (low :: high :: rest) =
      some (Char.ofNat (Utf16.unit low high)) :: utf16le.scan rest := by
  have hunit : Utf16.unit low high < 0xD800 := by
    unfold Utf16.unit
    omega
  have hleading : Utf16.isLeading (Utf16.unit low high) = false := by
    rw [Utf16.isLeading, decide_eq_false (by omega), Bool.false_and]
  have htrailing : Utf16.isTrailing (Utf16.unit low high) = false := by
    rw [Utf16.isTrailing, decide_eq_false (by omega), Bool.false_and]
  rw [scan, Utf16.scan.eq_def]
  dsimp only
  rw [hleading, htrailing]
  rfl

/-- The first character that UTF-16 reads is not the first byte: with a printable byte after it, it
lies far behind ASCII, and a byte on its own is broken. -/
theorem decode_utf16le_ne {bytes : Bytes} (hne : bytes ≠ [])
    (h : ∀ byte ∈ bytes, 0x20 ≤ byte.toNat ∧ byte.toNat < 0x80) :
    utf16le.decode bytes ≠ asciiText bytes := by
  intro heq
  match bytes, hne, h, heq with
  | [byte], _, h, heq =>
    have hbyte := (h byte List.mem_cons_self).2
    have hchar : Char.ofNat 0xFFFD = Char.ofNat byte.toNat := (List.cons.inj heq).1
    have hcode := congrArg Char.toNat hchar
    rw [toNat_ofNat_toNat] at hcode
    rw [← hcode] at hbyte
    exact absurd hbyte (by decide)
  | low :: high :: rest, _, h, heq =>
    have hlow := (h low List.mem_cons_self).2
    have hhigh := h high (List.mem_cons_of_mem _ List.mem_cons_self)
    rw [decode, scan_utf16le_cons_cons hlow hhigh.2] at heq
    have hchar : Char.ofNat (Utf16.unit low high) = Char.ofNat low.toNat := (List.cons.inj heq).1
    have hvalid : (Utf16.unit low high).isValidChar := by
      unfold Utf16.unit
      exact Or.inl (by omega)
    have hcode := congrArg Char.toNat hchar
    rw [toNat_ofNat_toNat, Char.ofNat, dif_pos hvalid] at hcode
    have hunit : Utf16.unit low high = low.toNat := hcode
    unfold Utf16.unit at hunit
    omega

end TermKeys.Encoding
