import TermKeys.Proofs.Unicode.Folding
import TermKeys.Unicode.Alphanumeric

/-!
Characters of command words. None of them is blank (`isBlank_of_isWordChar`), and whatever has small
ASCII letters as its lower case is made of letters (`isAlphanumeric_of_lower`). The capital letters
are not all: the Kelvin sign has the lower case `k`.
-/

set_option autoImplicit false

namespace TermKeys.Unicode

/-! ### Blanks -/

/-- The code points of a set, one by one. -/
def Ranges.codes (ranges : Ranges) : List Nat :=
  ranges.flatMap fun range ↦ List.range' range.1 (range.2 + 1 - range.1)

theorem Ranges.mem_codes_of_holds {ranges : Ranges} {n : Nat} (h : ranges.holds n = true) :
    n ∈ ranges.codes := by
  obtain ⟨range, hrange, hlow, hhigh⟩ := Ranges.exists_of_holds h
  refine List.mem_flatMap.mpr ⟨range, hrange, List.mem_range'_1.mpr ⟨hlow, ?_⟩⟩
  omega

theorem isBlank_of_isWordChar {c : Char} (h : isWordChar c = true) : isBlank c = false := by
  have hall : ∀ n ∈ blank.codes, isWordChar (Char.ofNat n) = false :=
    List.all_iff_forall_prop.mp (by decide +kernel)
  rw [Bool.eq_false_iff]
  intro hblank
  have hword := hall c.toNat (Ranges.mem_codes_of_holds hblank)
  rw [Char.ofNat_toNat, h] at hword
  exact absurd hword (by decide)

/-! ### Small letters -/

/-- Whether a code point is that of a small ASCII letter. -/
def IsSmall (n : Nat) : Prop := 0x61 ≤ n ∧ n ≤ 0x7A

instance (n : Nat) : Decidable (IsSmall n) := inferInstanceAs (Decidable (_ ∧ _))

/-- The code points whose lower case is a small ASCII letter. -/
def lettersOfSmall : Ranges := [(0x41, 0x5A), (0x61, 0x7A), (0x212A, 0x212A)]

/-- Whether a run leads past the small ASCII letters or from letters of theirs. -/
def CaseRun.fromLetters (run : CaseRun) : Bool :=
  Nat.blt 0x7A run.image ||
    lettersOfSmall.any fun range ↦ Nat.ble range.1 run.first && Nat.ble run.last range.2

theorem lowerRuns_fromLetters : lowerRuns.all CaseRun.fromLetters = true := by decide +kernel

theorem mem_codes_of_lowerOne {c : Char} (h : IsSmall (lowerOne c).toNat) :
    c.toNat ∈ lettersOfSmall.codes := by
  have hrange : ∃ range ∈ lettersOfSmall, range.1 ≤ c.toNat ∧ c.toNat ≤ range.2 := by
    rw [toNat_lowerOne] at h
    rcases CaseRun.apply_eq_self_or lowerRuns c.toNat with hself | ⟨run, hrun, k, hn, hlast, himage⟩
    · rw [hself] at h
      exact ⟨(0x61, 0x7A), by decide, h⟩
    · have hletters := List.all_eq_true.mp lowerRuns_fromLetters run hrun
      rw [himage] at h
      simp only [CaseRun.fromLetters, Bool.or_eq_true, Nat.blt_eq, List.any_eq_true,
        Bool.and_eq_true, Nat.ble_eq] at hletters
      rcases hletters with hpast | ⟨range, hmem, hfirst, hend⟩
      · exact absurd h.2 (by omega)
      · exact ⟨range, hmem, by omega, by omega⟩
  obtain ⟨range, hmem, hlow, hhigh⟩ := hrange
  refine List.mem_flatMap.mpr ⟨range, hmem, List.mem_range'_1.mpr ⟨hlow, ?_⟩⟩
  omega

/-- Each character of a text whose lower case is in ASCII brings its own lower case into it. -/
theorem lowerOne_mem_lowerFrom {text before : List Char}
    (hascii : ∀ d ∈ lowerFrom before text, d.toNat < 0x80) {c : Char} (hc : c ∈ text) :
    lowerOne c ∈ lowerFrom before text := by
  induction text generalizing before with
  | nil => exact absurd hc List.not_mem_nil
  | cons first rest ih =>
    rw [lowerFrom] at hascii ⊢
    rcases List.mem_cons.mp hc with rfl | hrest
    · refine List.mem_append_left _ ?_
      have hfirst := fun d hd ↦ hascii d (List.mem_append_left _ hd)
      unfold lowerAt at hfirst ⊢
      split_ifs at hfirst ⊢ with hsigma hfinal hdotted
      · exact absurd (hfirst 'ς' List.mem_cons_self) (by decide)
      · exact absurd (hfirst 'σ' List.mem_cons_self) (by decide)
      · exact absurd (hfirst (Char.ofNat 0x307) (by simp)) (by decide)
      · exact List.mem_cons_self
    · exact List.mem_append_right _
        (ih (fun d hd ↦ hascii d (List.mem_append_right _ hd)) hrest)

/-- A text whose lower case is of small ASCII letters has letters alone. -/
theorem isAlphanumeric_of_lower {text : List Char} (h : ∀ d ∈ lower text, IsSmall d.toNat)
    {c : Char} (hc : c ∈ text) : isAlphanumeric c = true := by
  have hall : ∀ n ∈ lettersOfSmall.codes, isAlphanumeric (Char.ofNat n) = true :=
    List.all_iff_forall_prop.mp (by decide +kernel)
  have hmem : lowerOne c ∈ lower text :=
    lowerOne_mem_lowerFrom (fun d hd ↦ Nat.lt_of_le_of_lt (h d hd).2 (by decide)) hc
  have hletter := hall c.toNat (mem_codes_of_lowerOne (h _ hmem))
  rwa [Char.ofNat_toNat] at hletter

/-- Such a text may be a command word. -/
theorem isWordChar_of_lower {text : List Char} (h : ∀ d ∈ lower text, IsSmall d.toNat) {c : Char}
    (hc : c ∈ text) : isWordChar c = true := by
  rw [isWordChar, isAlphanumeric_of_lower h hc, Bool.true_or]

end TermKeys.Unicode
