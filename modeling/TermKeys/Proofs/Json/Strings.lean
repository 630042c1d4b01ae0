import Mathlib.Tactic.SplitIfs
import TermKeys.Json.Parser
import TermKeys.Json.Printer

/-!
Strings in JSON. Whichever style writes a string, reading takes it back whole and leaves what
follows (`string?_flatMap_writeChar`). A character is written as itself, after a backslash, or as
the escapes of its code units, and a pair of these is put together again; this is one lemma on a
single character in front of anything (`exists_pieces`).
-/

set_option autoImplicit false

namespace TermKeys

/-! ### Hexadecimal digits -/

theorem Text.hexPadded_succ {width : Nat} (h : 0 < width) (n : Nat) :
    Text.hexPadded (width + 1) n = Text.hexPadded width (n / 16) ++ [Nat.digitChar (n % 16)] := by
  unfold Text.hexPadded Text.hexOfNat
  dsimp only
  by_cases hn : n < 16
  · have hzero : n / 16 = 0 := by omega
    rw [hzero, Nat.toDigits_of_lt_base hn, Nat.toDigits_zero, Nat.mod_eq_of_lt hn]
    obtain ⟨width, rfl⟩ := Nat.exists_eq_add_of_lt h
    simp [List.replicate_succ']
  · rw [Nat.toDigits_of_base_le (by omega) (by omega), List.length_append, List.length_singleton,
      Nat.add_sub_add_right, List.append_assoc]

theorem Text.hexPadded_one {n : Nat} (h : n < 16) : Text.hexPadded 1 n = [Nat.digitChar n] := by
  rw [Text.hexPadded, Text.hexOfNat, Nat.toDigits_of_lt_base h]
  rfl

theorem Text.hexValue?_digitChar : ∀ n < 16, Text.hexValue? (Nat.digitChar n) = some n := by decide

namespace Json

/-- The four digits of a code unit are read as that unit. -/
theorem exists_hexPadded {unit : Nat} (h : unit < 0x10000) :
    ∃ a b c d, Text.hexPadded 4 unit = [a, b, c, d] ∧ hexUnit? a b c d = some unit := by
  have hdigits : Text.hexPadded 4 unit =
      [Nat.digitChar (unit / 16 / 16 / 16), Nat.digitChar (unit / 16 / 16 % 16),
        Nat.digitChar (unit / 16 % 16), Nat.digitChar (unit % 16)] := by
    rw [Text.hexPadded_succ (by omega), Text.hexPadded_succ (by omega),
      Text.hexPadded_succ (by omega), Text.hexPadded_one (by omega)]
    rfl
  refine ⟨_, _, _, _, hdigits, ?_⟩
  have hvalue (n : Nat) (hn : n < 16) := Text.hexValue?_digitChar n hn
  rw [hexUnit?, hvalue _ (by omega), hvalue _ (by omega), hvalue _ (by omega), hvalue _ (by omega)]
  exact congrArg some (by omega)

/-! ### The pieces of a string -/

theorem pieces?_unitEscape {unit : Nat} (h : unit < 0x10000) (rest : Text) :
    pieces? (unitEscape unit ++ rest) =
      (pieces? rest).map fun parts ↦ (.unit unit :: parts.1, parts.2) := by
  obtain ⟨a, b, c, d, hdigits, hunit⟩ := exists_hexPadded h
  rw [unitEscape, hdigits]
  simp [pieces?, hunit]

theorem pieces?_escaped {mark c : Char} (hmark : mark ≠ 'u') (h : escaped? mark = some c)
    (rest : Text) :
    pieces? ('\\' :: mark :: rest) =
      (pieces? rest).map fun parts ↦ (.char c :: parts.1, parts.2) := by
  rw [pieces?.eq_3 _ _ _ fun _ _ _ _ _ hu ↦ absurd hu hmark]
  simp [h]

theorem pieces?_plain {c : Char} (hquote : c ≠ '"') (hslash : c ≠ '\\') (hlow : ¬c.toNat < 0x20)
    (rest : Text) :
    pieces? (c :: rest) = (pieces? rest).map fun parts ↦ (.char c :: parts.1, parts.2) := by
  rw [pieces?.eq_def]
  simp [hquote, hslash, hlow]

/-- A letter that stands for a control character is read as that character. -/
theorem escaped?_of_letters {c letter : Char} (h : letters.lookup c = some letter) :
    letter ≠ 'u' ∧ escaped? letter = some c := by
  have hall : ∀ entry ∈ letters, entry.2 ≠ 'u' ∧ escaped? entry.2 = some entry.1 := by decide
  exact hall (c, letter) (mem_of_lookup h)

theorem joinPieces_unit {a : Nat} (h : Utf16.isLeading a = false) (rest : List Piece) :
    joinPieces (.unit a :: rest) = unitChar a :: joinPieces rest := by
  cases rest with
  | nil => rfl
  | cons piece rest =>
    cases piece with
    | char c => rfl
    | unit b => rw [joinPieces, h, Bool.false_and, if_neg Bool.false_ne_true]

/-- A character that is written as the escapes of its code units is read back from them. -/
theorem exists_pieces_charEscape (c : Char) :
    ∃ pieces, (∀ rest, pieces? (charEscape c ++ rest) =
        (pieces? rest).map fun parts ↦ (pieces ++ parts.1, parts.2)) ∧
      ∀ rest, joinPieces (pieces ++ rest) = c :: joinPieces rest := by
  have hvalid : c.toNat < 0xD800 ∨ 0xDFFF < c.toNat ∧ c.toNat < 0x110000 := c.valid
  have hc : Char.ofNat c.toNat = c := Char.ofNat_toNat c
  unfold charEscape
  generalize c.toNat = n at *
  split_ifs with h
  · refine ⟨[.unit n], pieces?_unitEscape h, fun rest ↦ ?_⟩
    have hleading : Utf16.isLeading n = false := by
      simp only [Utf16.isLeading, Bool.and_eq_false_iff, decide_eq_false_iff_not]
      omega
    have htrailing : Utf16.isTrailing n = false := by
      simp only [Utf16.isTrailing, Bool.and_eq_false_iff, decide_eq_false_iff_not]
      omega
    rw [List.singleton_append, joinPieces_unit hleading, unitChar, hleading, htrailing,
      Bool.or_false, if_neg Bool.false_ne_true, hc]
  · refine ⟨[.unit (0xD800 + (n - 0x10000) / 0x400), .unit (0xDC00 + (n - 0x10000) % 0x400)],
      fun rest ↦ ?_, fun rest ↦ ?_⟩
    · rw [List.append_assoc, pieces?_unitEscape (by omega), pieces?_unitEscape (by omega)]
      cases pieces? rest <;> rfl
    · have hpair : Utf16.isLeading (0xD800 + (n - 0x10000) / 0x400) &&
          Utf16.isTrailing (0xDC00 + (n - 0x10000) % 0x400) := by
        simp only [Utf16.isLeading, Utf16.isTrailing, Bool.and_eq_true, decide_eq_true_eq]
        omega
      have hvalue : 0x10000 + (0xD800 + (n - 0x10000) / 0x400 - 0xD800) * 0x400 +
          (0xDC00 + (n - 0x10000) % 0x400 - 0xDC00) = n := by omega
      rw [List.cons_append, List.singleton_append, joinPieces, if_pos hpair, Utf16.pair, hvalue, hc]

/-- A character in front of anything is written so that it is read back. -/
theorem exists_pieces (style : Style) (c : Char) :
    ∃ pieces, (∀ rest, pieces? (writeChar style c ++ rest) =
        (pieces? rest).map fun parts ↦ (pieces ++ parts.1, parts.2)) ∧
      ∀ rest, joinPieces (pieces ++ rest) = c :: joinPieces rest := by
  by_cases hmarked : c = '"' ∨ c = '\\'
  · have hescaped : c ≠ 'u' ∧ escaped? c = some c := by
      rcases hmarked with rfl | rfl <;> decide
    rw [writeChar, if_pos hmarked]
    exact ⟨[.char c], pieces?_escaped hescaped.1 hescaped.2, fun _ ↦ rfl⟩
  rw [writeChar, if_neg hmarked]
  cases hletter : letters.lookup c with
  | some letter =>
    obtain ⟨hmark, hescaped⟩ := escaped?_of_letters hletter
    exact ⟨[.char c], pieces?_escaped hmark hescaped, fun _ ↦ rfl⟩
  | none =>
    dsimp only
    split_ifs with hcode
    · exact exists_pieces_charEscape c
    · obtain ⟨hquote, hslash⟩ := not_or.mp hmarked
      have hlow : ¬c.toNat < 0x20 := fun h ↦ hcode (Or.inl h)
      exact ⟨[.char c], pieces?_plain hquote hslash hlow, fun _ ↦ rfl⟩

/-- A written string is read back up to its closing quote. -/
theorem string?_flatMap_writeChar (style : Style) (text rest : Text) :
    string? (text.flatMap (writeChar style) ++ '"' :: rest) = some (text, rest) := by
  have hpieces : ∃ pieces,
      pieces? (text.flatMap (writeChar style) ++ '"' :: rest) = some (pieces, rest) ∧
        joinPieces pieces = text := by
    induction text with
    | nil => exact ⟨[], by simp [pieces?.eq_def ('"' :: rest)], rfl⟩
    | cons c text ih =>
      obtain ⟨others, hothers, htext⟩ := ih
      obtain ⟨front, hfront, hjoin⟩ := exists_pieces style c
      refine ⟨front ++ others, ?_, by rw [hjoin, htext]⟩
      rw [List.flatMap_cons, List.append_assoc, hfront, hothers]
      rfl
  obtain ⟨pieces, hread, htext⟩ := hpieces
  rw [string?, hread, Option.map_some, htext]

end Json

end TermKeys
