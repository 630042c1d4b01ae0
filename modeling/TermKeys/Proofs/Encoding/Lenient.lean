import TermKeys.Proofs.Encoding.Ascii

/-!
Texts that are written leniently and read again. Every encoding reads a character back that it has,
and a question mark for one that it lacks (`decode_encode_eq`): nothing is broken in what it wrote,
and no bytes of one character run into those of the next. In every encoding but UTF-16 a byte in
ASCII is one of a character in ASCII (`exists_of_mem_encode`).
-/

set_option autoImplicit false

namespace TermKeys

/-! ### UTF-16 -/

namespace Utf16

theorem unit_ofNat {n : Nat} (h : n < 0x10000) :
    unit (UInt8.ofNat (n % 256)) (UInt8.ofNat (n / 256)) = n := by
  rw [unit, UInt8.toNat_ofNat', UInt8.toNat_ofNat']
  omega

/-- A unit that is no surrogate is a character. -/
theorem scan_unitBytes {n : Nat} (h : n < 0xD800 ∨ 0xDFFF < n ∧ n < 0x10000) (rest : Bytes) :
    scan (unitBytes n ++ rest) = some (Char.ofNat n) :: scan rest := by
  have hunit := unit_ofNat (n := n) (by omega)
  have hleading : isLeading n = false := by
    simp only [isLeading, Bool.and_eq_false_iff, decide_eq_false_iff_not]
    omega
  have htrailing : isTrailing n = false := by
    simp only [isTrailing, Bool.and_eq_false_iff, decide_eq_false_iff_not]
    omega
  rw [unitBytes, List.cons_append, List.singleton_append, scan.eq_def]
  dsimp only
  rw [hunit, hleading, htrailing]
  rfl

/-- The first half of a pair and the second one are a character together. -/
theorem scan_unitBytes_pair {first second : Nat} (hfirst : 0xD800 ≤ first ∧ first < 0xDC00)
    (hsecond : 0xDC00 ≤ second ∧ second < 0xE000) (rest : Bytes) :
    scan (unitBytes first ++ (unitBytes second ++ rest)) =
      some (pair first second) :: scan rest := by
  have hleading : isLeading first = true := by simp [isLeading, hfirst]
  have htrailing : isTrailing second = true := by simp [isTrailing, hsecond]
  rw [unitBytes, unitBytes, List.cons_append, List.singleton_append, List.cons_append,
    List.singleton_append, scan.eq_def]
  dsimp only
  rw [unit_ofNat (by omega), unit_ofNat (by omega), hleading, htrailing]
  rfl

/-- The bytes of a character are read as that character. -/
theorem scan_encodeChar (c : Char) (rest : Bytes) :
    scan (encodeChar c ++ rest) = some c :: scan rest := by
  have hvalid : c.toNat < 0xD800 ∨ 0xDFFF < c.toNat ∧ c.toNat < 0x110000 := c.valid
  have hc : Char.ofNat c.toNat = c := Char.ofNat_toNat c
  unfold encodeChar units
  generalize c.toNat = n at *
  split_ifs with hone
  · rw [List.flatMap_singleton, scan_unitBytes (by omega), hc]
  · have hvalue : 0x10000 + (0xD800 + (n - 0x10000) / 0x400 - 0xD800) * 0x400 +
        (0xDC00 + (n - 0x10000) % 0x400 - 0xDC00) = n := by omega
    rw [List.flatMap_cons, List.flatMap_singleton, List.append_assoc,
      scan_unitBytes_pair (by omega) (by omega), pair, hvalue, hc]

end Utf16

namespace Encoding

/-! ### Reading what was written -/

/-- What is read of a character that was written: a question mark if the encoding lacks it. -/
def kept (encoding : Encoding) (c : Char) : Char :=
  if (encoding.encodeChar? c).isSome then c else '?'

/-- The bytes written for a character are read as what is kept of it, whatever follows them. -/
theorem scan_append_encodeChar (encoding : Encoding) (c : Char) (rest : Bytes) :
    encoding.scan ((encoding.encodeChar? c).getD [0x3F] ++ rest) =
      some (encoding.kept c) :: encoding.scan rest := by
  cases encoding with
  | utf8 => exact Utf8.scanFrom_encodeChar c rest
  | latin1 =>
    by_cases hc : c.toNat < 0x100
    · simp [scan, encodeChar?, kept, hc, UInt8.toNat_ofNat_of_lt' hc]
    · simp [scan, encodeChar?, kept, hc]
  | ascii =>
    by_cases hc : c.toNat < 0x80
    · have hcode : (UInt8.ofNat c.toNat).toNat = c.toNat :=
        UInt8.toNat_ofNat_of_lt' (Nat.lt_trans hc (by decide))
      have hlow : UInt8.ofNat c.toNat < 0x80 := by
        rw [UInt8.lt_iff_toNat_lt, hcode]
        exact hc
      simp [scan, encodeChar?, kept, hc, hcode, hlow]
    · simp [scan, encodeChar?, kept, hc]
  | utf16le => exact Utf16.scan_encodeChar c rest

theorem scan_encode (encoding : Encoding) (text : Text) :
    encoding.scan (encoding.encode text) = text.map fun c ↦ some (encoding.kept c) := by
  induction text with
  | nil => cases encoding <;> rfl
  | cons c rest ih =>
    rw [encode, List.flatMap_cons, scan_append_encodeChar, ← encode, ih, List.map_cons]

/-- A text that was written is read character by character as what is kept of it. -/
theorem decode_encode_eq (encoding : Encoding) (text : Text) :
    encoding.decode (encoding.encode text) = text.map encoding.kept := by
  rw [decode, scan_encode, List.map_map]
  rfl

theorem kept_eq_or (encoding : Encoding) (c : Char) :
    encoding.kept c = c ∨ encoding.kept c = '?' := by
  unfold kept
  split_ifs
  · exact Or.inl rfl
  · exact Or.inr rfl

/-! ### Bytes in ASCII -/

/-- A byte in ASCII that another encoding than UTF-16 writes is that of a character of the text, or
the question mark in place of one. -/
theorem exists_of_mem_encode {encoding : Encoding} (hne : encoding ≠ .utf16le) {text : Text}
    {byte : UInt8} (hbyte : byte ∈ encoding.encode text) (hascii : byte.toNat < 0x80) :
    byte = 0x3F ∨ ∃ c ∈ text, c.toNat = byte.toNat := by
  obtain ⟨c, hc, hmem⟩ := List.mem_flatMap.mp hbyte
  -- One byte for a character, where there is one, is its code point.
  have hone {limit : Nat} (hlimit : limit ≤ 0x100)
      (hin : byte ∈ (if c.toNat < limit then some [UInt8.ofNat c.toNat] else none).getD [0x3F]) :
      byte = 0x3F ∨ ∃ c ∈ text, c.toNat = byte.toNat := by
    split_ifs at hin with hlow
    · obtain rfl := List.mem_singleton.mp hin
      exact Or.inr ⟨c, hc, (UInt8.toNat_ofNat_of_lt' (Nat.lt_of_lt_of_le hlow hlimit)).symm⟩
    · exact Or.inl (List.mem_singleton.mp hin)
  cases encoding with
  | utf8 =>
    rcases encodeChar_cases c with ⟨hlow, hchar⟩ | ⟨-, -, hhigh⟩
    · refine hone (Nat.le_refl 0x100) ?_
      rwa [if_pos (by omega), Option.getD_some, ← hchar]
    · exact absurd (hhigh byte hmem) (by omega)
  | latin1 => exact hone (Nat.le_refl 0x100) hmem
  | ascii => exact hone (by decide) hmem
  | utf16le => exact absurd rfl hne

end Encoding

end TermKeys
