import Mathlib.Data.Bool.AllAny
import TermKeys.Command
import TermKeys.Proofs.Unicode.Words

/-!
Words that name commands. A word names a command just when both have the same lower case, and it is
then made of characters that a command word in a line may have.
-/

set_option autoImplicit false

namespace TermKeys.Command

open Unicode

/-- A word names the command whose spelling has the same lower case. -/
theorem named?_eq_some_iff {word : Text} {command : Command} :
    named? word = some command ↔
      ∃ spelling, command.text? = some spelling ∧ lower word = lower spelling := by
  constructor
  · intro h
    obtain ⟨other, -, hother⟩ := List.mem_filterMap.mp (mem_of_lookup h)
    obtain ⟨spelling, hspelling, heq⟩ := Option.map_eq_some_iff.mp hother
    obtain ⟨hlower, rfl⟩ := Prod.mk.inj heq
    exact ⟨spelling, hspelling, hlower.symm⟩
  · rintro ⟨spelling, hspelling, hlower⟩
    have hown : ∀ command : Command, ∀ spelling ∈ command.text?,
        names.lookup (lower spelling) = some command := by
      intro command
      cases command <;> decide +kernel
    rw [named?, hlower]
    exact hown command spelling hspelling

theorem isSmall_of_text? {command : Command} {spelling : Text}
    (h : command.text? = some spelling) :
    lower spelling ≠ [] ∧ ∀ d ∈ lower spelling, IsSmall d.toNat := by
  have hchars : ∀ command : Command, ∀ spelling ∈ command.text?,
      lower spelling ≠ [] ∧ ((lower spelling).all fun d ↦ IsSmall d.toNat) = true := by
    intro command
    cases command <;> decide +kernel
  obtain ⟨hne, hall⟩ := hchars command spelling h
  exact ⟨hne, List.all_iff_forall_prop.mp hall⟩

/-- A word that names a command may stand in a line as it is. -/
theorem isWordChar_of_named? {word : Text} {command : Command} (h : named? word = some command) :
    word ≠ [] ∧ ∀ c ∈ word, isWordChar c = true := by
  obtain ⟨spelling, hspelling, hlower⟩ := named?_eq_some_iff.mp h
  obtain ⟨hne, hsmall⟩ := isSmall_of_text? hspelling
  rw [← hlower] at hne hsmall
  refine ⟨?_, fun c hc ↦ isWordChar_of_lower hsmall hc⟩
  rintro rfl
  exact hne rfl

end TermKeys.Command
