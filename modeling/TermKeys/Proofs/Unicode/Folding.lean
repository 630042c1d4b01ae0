import Mathlib.Data.Bool.AllAny
import Mathlib.Tactic.SplitIfs
import TermKeys.Unicode.Blank
import TermKeys.Unicode.Case

/-!
Case mappings undo each other as far as key names need it. Both tables move whole rows of code
points, so one search for each run settles all its members: `CaseRun.imageOf` follows a row
through a table, and `CaseRun.apply_of_imageOf` says that it speaks for every member.

A character of a text in lower case keeps its lower case (`folded_of_mem_lower`). The upper case
of such a character has one lower case, and going up from there gives the same upper case again
(`upperOne_lowerOne_upperOne`): this is why a key written as one character is read back, in every
script. No mapping leads to a blank or to the null character (`Reached`).
-/

set_option autoImplicit false

namespace TermKeys.Unicode

/-! ### Rows of code points -/

namespace CaseRun

/-- The image of the last code point of a run. -/
def lastImage (run : CaseRun) : Nat := run.image + (run.last - run.first)

/-- The image of the first code point of a row of equidistant ones, if a table moves the whole row
by the same distance or not at all. -/
def imageOf (low high step : Nat) : List CaseRun → Option Nat
  | [] => some low
  | run :: rest =>
    if Nat.blt high run.first then some low
    else if Nat.blt low run.first then none
    else if Nat.blt run.last low then imageOf low high step rest
    else if !(low == high || step % run.step == 0) then none
    else if (low - run.first) % run.step == 0 then
      if Nat.ble high run.last then some (run.image + (low - run.first)) else none
    else (imageOf low high step rest).filter fun image ↦ image == low

/-- A member of a row stands to a run of the table as the first of the row does. -/
theorem mod_step_eq {low high step runFirst runStep k : Nat} (hlow : runFirst ≤ low)
    (hk : low + k * step ≤ high) (hstep : low = high ∨ step % runStep = 0) :
    (low + k * step - runFirst) % runStep = (low - runFirst) % runStep := by
  have hsplit : low + k * step - runFirst = low - runFirst + k * step := by omega
  rcases hstep with hone | hdvd
  · have hzero : k * step = 0 := by omega
    simp [hzero]
  · rw [hsplit, Nat.add_mod, Nat.mul_mod, hdvd]
    simp

/-- What a table does to the first of a row it does to every member. -/
theorem apply_of_imageOf {runs : List CaseRun} {low high step image k : Nat}
    (h : imageOf low high step runs = some image) (hk : low + k * step ≤ high) :
    apply runs (low + k * step) = image + k * step := by
  induction runs generalizing image with
  | nil => simp_all [imageOf, apply]
  | cons run rest ih =>
    simp only [imageOf, Nat.blt_eq, Nat.ble_eq, Bool.not_eq_true', Bool.or_eq_false_iff,
      beq_eq_false_iff_ne, beq_iff_eq] at h
    rw [apply]
    split_ifs at h with hbefore hcross hafter hstep hmember hlast
    · rw [if_pos (by omega), Option.some.inj h]
    · rw [if_neg (by omega), if_neg (by omega), ih h]
    · have hmod := mod_step_eq (Nat.le_of_not_lt hcross) hk
        (Decidable.or_iff_not_not_and_not.mpr hstep)
      rw [if_neg (by omega), if_pos (by omega), if_pos (hmod.trans hmember), ← Option.some.inj h]
      omega
    · have hmod := mod_step_eq (Nat.le_of_not_lt hcross) hk
        (Decidable.or_iff_not_not_and_not.mpr hstep)
      obtain ⟨hrest, himage⟩ := Option.filter_eq_some_iff.mp h
      rw [if_neg (by omega), hmod, if_neg hmember, ih hrest, beq_iff_eq.mp himage, ite_self]

/-- Whether the code points that a run of upper case leads to have a lower case from which the
table of upper case leads back to them. -/
def returns (run : CaseRun) : Bool :=
  match imageOf run.image run.lastImage run.step lowerRuns with
  | none => false
  | some low => imageOf low (low + (run.last - run.first)) run.step upperRuns == some run.image

/-- Whether the code points that a run leads to are in lower case. -/
def rests (run : CaseRun) : Bool :=
  imageOf run.image run.lastImage run.step lowerRuns == some run.image

/-- A table moves a code point with one of its runs or leaves it alone. -/
theorem apply_eq_self_or (runs : List CaseRun) (n : Nat) :
    apply runs n = n ∨ ∃ run ∈ runs, ∃ k, run.first + k * run.step = n ∧ n ≤ run.last ∧
      apply runs n = run.image + k * run.step := by
  induction runs with
  | nil => exact Or.inl rfl
  | cons run rest ih =>
    rw [apply]
    split_ifs with hbefore hlast hmember
    · exact Or.inl rfl
    · refine Or.inr ⟨run, List.mem_cons_self, (n - run.first) / run.step, ?_, hlast, ?_⟩
      · rw [Nat.div_mul_cancel (Nat.dvd_of_mod_eq_zero hmember)]
        omega
      · rw [Nat.div_mul_cancel (Nat.dvd_of_mod_eq_zero hmember)]
    · exact Or.inl rfl
    · rcases ih with ih | ⟨other, hother, hmoved⟩
      · exact Or.inl ih
      · exact Or.inr ⟨other, List.mem_cons_of_mem _ hother, hmoved⟩

theorem upperRuns_return : upperRuns.all returns = true := by decide +kernel

theorem lowerRuns_rest : lowerRuns.all rests = true := by decide +kernel

/-- Lower case is kept by lower case. -/
theorem apply_lowerRuns_apply_lowerRuns (n : Nat) :
    apply lowerRuns (apply lowerRuns n) = apply lowerRuns n := by
  rcases apply_eq_self_or lowerRuns n with hself | ⟨run, hrun, k, hn, hlast, himage⟩
  · rw [hself, hself]
  · have hrests := List.all_eq_true.mp lowerRuns_rest run hrun
    rw [himage]
    exact apply_of_imageOf (beq_iff_eq.mp hrests) (by unfold lastImage; omega)

/-- The upper case of a code point in lower case is the upper case of its own lower case. -/
theorem apply_upperRuns_apply_lowerRuns {n : Nat} (h : apply lowerRuns n = n) :
    apply upperRuns (apply lowerRuns (apply upperRuns n)) = apply upperRuns n := by
  rcases apply_eq_self_or upperRuns n with hself | ⟨run, hrun, k, hn, hlast, himage⟩
  · rw [hself, h, hself]
  · have hreturns := List.all_eq_true.mp upperRuns_return run hrun
    unfold returns at hreturns
    split at hreturns
    · exact absurd hreturns Bool.false_ne_true
    · next low hlow =>
      rw [himage, apply_of_imageOf hlow (by unfold lastImage; omega)]
      exact apply_of_imageOf (beq_iff_eq.mp hreturns) (by omega)

/-- The code points that no table of case leads to: blanks, the null character, the capital `İ`,
which has no lower case of one character, and the surrogates. -/
def unreached : Ranges := blank ++ [(0, 0), (0x130, 0x130), (0xD800, 0xDFFF)]

/-- Whether a run leads to characters alone, and to none of the unreached ones. -/
def avoidsUnreached (run : CaseRun) : Bool :=
  Nat.blt run.lastImage 0x110000 &&
    unreached.all fun range ↦ Nat.blt run.lastImage range.1 || Nat.blt range.2 run.image

theorem runs_avoidUnreached : (lowerRuns ++ upperRuns).all avoidsUnreached = true := by
  decide +kernel

/-- Where a table leads: to the code point itself or to a character that is not unreached. -/
theorem apply_eq_self_or_reached {runs : List CaseRun} (hruns : runs ⊆ lowerRuns ++ upperRuns)
    (n : Nat) :
    apply runs n = n ∨ apply runs n < 0x110000 ∧
      ∀ range ∈ unreached, ¬ (range.1 ≤ apply runs n ∧ apply runs n ≤ range.2) := by
  rcases apply_eq_self_or runs n with hself | ⟨run, hrun, k, hn, hlast, himage⟩
  · exact Or.inl hself
  · refine Or.inr ?_
    have havoids := List.all_eq_true.mp runs_avoidUnreached run (hruns hrun)
    simp only [avoidsUnreached, Bool.and_eq_true, Nat.blt_eq, List.all_eq_true,
      Bool.or_eq_true] at havoids
    have hreach : apply runs n ≤ run.lastImage := by unfold lastImage; omega
    refine ⟨by omega, fun range hrange hin ↦ ?_⟩
    have := havoids.2 range hrange
    omega

end CaseRun

/-! ### Characters -/

/-- A code point in a set of ranges lies in one of them. -/
theorem Ranges.exists_of_holds {ranges : Ranges} {n : Nat} (h : ranges.holds n = true) :
    ∃ range ∈ ranges, range.1 ≤ n ∧ n ≤ range.2 := by
  induction ranges with
  | nil => simp [Ranges.holds] at h
  | cons range rest ih =>
    rw [Ranges.holds] at h
    split_ifs at h with hbefore hin
    · exact ⟨range, List.mem_cons_self, Nat.le_of_not_lt hbefore, hin⟩
    · obtain ⟨other, hother, hrange⟩ := ih h
      exact ⟨other, List.mem_cons_of_mem _ hother, hrange⟩

/-- The lower case of a character that does not depend on its neighbours. -/
def lowerOne (c : Char) : Char := Char.ofNat (CaseRun.apply lowerRuns c.toNat)

/-- The code point that a table gives for a character is that of a character. -/
theorem toNat_ofNat_apply {runs : List CaseRun} (hruns : runs ⊆ lowerRuns ++ upperRuns)
    (c : Char) : (Char.ofNat (CaseRun.apply runs c.toNat)).toNat = CaseRun.apply runs c.toNat := by
  rcases CaseRun.apply_eq_self_or_reached hruns c.toNat with hself | ⟨hbound, hreached⟩
  · rw [hself, Char.ofNat_toNat]
  · have hsurrogate := hreached (0xD800, 0xDFFF) (by decide)
    have hvalid : (CaseRun.apply runs c.toNat).isValidChar := by
      simp only [Nat.isValidChar]
      omega
    rw [Char.ofNat, dif_pos hvalid]
    rfl

theorem toNat_lowerOne (c : Char) : (lowerOne c).toNat = CaseRun.apply lowerRuns c.toNat :=
  toNat_ofNat_apply (List.subset_append_left _ _) c

theorem toNat_upperOne (c : Char) : (upperOne c).toNat = CaseRun.apply upperRuns c.toNat :=
  toNat_ofNat_apply (List.subset_append_right _ _) c

/-- A character that a mapping may lead to. -/
structure Reached (c : Char) : Prop where
  isBlank_eq : isBlank c = false
  ne_null : c ≠ Char.ofNat 0
  ne_dotted : c ≠ 'İ'

theorem eq_or_reached {runs : List CaseRun} (hruns : runs ⊆ lowerRuns ++ upperRuns) (c : Char) :
    Char.ofNat (CaseRun.apply runs c.toNat) = c ∨
      Reached (Char.ofNat (CaseRun.apply runs c.toNat)) := by
  rcases CaseRun.apply_eq_self_or_reached hruns c.toNat with hself | ⟨-, hreached⟩
  · exact Or.inl (by rw [hself, Char.ofNat_toNat])
  · rw [← toNat_ofNat_apply hruns c] at hreached
    refine Or.inr ⟨?_, fun hnull ↦ ?_, fun hdotted ↦ ?_⟩
    · rw [Bool.eq_false_iff]
      intro hblank
      obtain ⟨range, hrange, hin⟩ := Ranges.exists_of_holds hblank
      exact hreached range (List.mem_append_left _ hrange) hin
    · exact hreached (0, 0) (by decide) (by rw [hnull]; decide)
    · exact hreached (0x130, 0x130) (by decide) (by rw [hdotted]; decide)

theorem lowerOne_eq_or_reached (c : Char) : lowerOne c = c ∨ Reached (lowerOne c) :=
  eq_or_reached (List.subset_append_left _ _) c

theorem upperOne_eq_or_reached (c : Char) : upperOne c = c ∨ Reached (upperOne c) :=
  eq_or_reached (List.subset_append_right _ _) c

/-- A character as it may stand in a text in lower case. -/
structure Folded (c : Char) : Prop where
  lowerOne_eq : lowerOne c = c
  ne_dotted : c ≠ 'İ'

theorem folded_lowerOne {c : Char} (h : c ≠ 'İ') : Folded (lowerOne c) where
  lowerOne_eq := by
    rw [lowerOne, toNat_lowerOne, CaseRun.apply_lowerRuns_apply_lowerRuns, lowerOne]
  ne_dotted := by
    rcases lowerOne_eq_or_reached c with hself | hreached
    · rwa [hself]
    · exact hreached.ne_dotted

theorem isBlank_lowerOne {c : Char} (h : isBlank c = false) : isBlank (lowerOne c) = false := by
  rcases lowerOne_eq_or_reached c with hself | hreached
  · rwa [hself]
  · exact hreached.isBlank_eq

theorem isBlank_upperOne {c : Char} (h : isBlank c = false) : isBlank (upperOne c) = false := by
  rcases upperOne_eq_or_reached c with hself | hreached
  · rwa [hself]
  · exact hreached.isBlank_eq

theorem upperOne_ne_dotted {c : Char} (h : c ≠ 'İ') : upperOne c ≠ 'İ' := by
  rcases upperOne_eq_or_reached c with hself | hreached
  · rwa [hself]
  · exact hreached.ne_dotted

theorem upperOne_ne_null {c : Char} (h : c ≠ Char.ofNat 0) : upperOne c ≠ Char.ofNat 0 := by
  rcases upperOne_eq_or_reached c with hself | hreached
  · rwa [hself]
  · exact hreached.ne_null

/-- The upper case of a character in lower case is the upper case of its own lower case. -/
theorem upperOne_lowerOne_upperOne {c : Char} (h : Folded c) :
    upperOne (lowerOne (upperOne c)) = upperOne c := by
  have hfolded : CaseRun.apply lowerRuns c.toNat = c.toNat := by
    rw [← toNat_lowerOne, h.lowerOne_eq]
  rw [upperOne, toNat_lowerOne, toNat_upperOne, CaseRun.apply_upperRuns_apply_lowerRuns hfolded,
    upperOne]

/-! ### Texts -/

/-- The lower case of a character is that character or reached. -/
theorem folded_of_mem_lowerAt {before after : List Char} {c d : Char}
    (h : d ∈ lowerAt before c after) : Folded d ∧ (d = c ∨ Reached d) := by
  have hmarks : ∀ d ∈ ['ς', 'σ', 'i', Char.ofNat 0x307], Folded d ∧ Reached d := by
    have hall : ∀ d ∈ ['ς', 'σ', 'i', Char.ofNat 0x307], lowerOne d = d ∧ d ≠ 'İ' ∧
        isBlank d = false ∧ d ≠ Char.ofNat 0 :=
      List.all_iff_forall_prop.mp (by decide +kernel)
    intro d hd
    obtain ⟨hlower, hdotted, hblank, hnull⟩ := hall d hd
    exact ⟨⟨hlower, hdotted⟩, ⟨hblank, hnull, hdotted⟩⟩
  unfold lowerAt at h
  split_ifs at h with hcapital hfinal hdotted
  · exact (hmarks d (by simp_all)).imp_right Or.inr
  · exact (hmarks d (by simp_all)).imp_right Or.inr
  · exact (hmarks d (by simp_all)).imp_right Or.inr
  · obtain rfl := List.mem_singleton.mp h
    exact ⟨folded_lowerOne hdotted, lowerOne_eq_or_reached c⟩

theorem mem_lowerFrom {before text : List Char} {d : Char} (h : d ∈ lowerFrom before text) :
    Folded d ∧ (d ∈ text ∨ Reached d) := by
  induction text generalizing before with
  | nil => simp [lowerFrom] at h
  | cons c rest ih =>
    rw [lowerFrom] at h
    rcases List.mem_append.mp h with h | h
    · obtain ⟨hfolded, heq | hreached⟩ := folded_of_mem_lowerAt h
      · exact ⟨hfolded, Or.inl (heq ▸ List.mem_cons_self)⟩
      · exact ⟨hfolded, Or.inr hreached⟩
    · obtain ⟨hfolded, hrest⟩ := ih h
      exact ⟨hfolded, hrest.imp_left (List.mem_cons_of_mem c)⟩

/-- The characters of a text in lower case keep their lower case. -/
theorem folded_of_mem_lower {text : List Char} {d : Char} (h : d ∈ lower text) : Folded d :=
  (mem_lowerFrom h).1

/-- Lower case brings no blanks into a text. -/
theorem isBlank_of_mem_lower {text : List Char} (htext : ∀ c ∈ text, isBlank c = false) {d : Char}
    (h : d ∈ lower text) : isBlank d = false :=
  (mem_lowerFrom h).2.elim (htext d) Reached.isBlank_eq

/-- Lower case brings no null character into a text. -/
theorem ne_null_of_mem_lower {text : List Char} (htext : Char.ofNat 0 ∉ text) {d : Char}
    (h : d ∈ lower text) : d ≠ Char.ofNat 0 :=
  (mem_lowerFrom h).2.elim (fun hmem heq ↦ htext (heq ▸ hmem)) Reached.ne_null

/-- Nothing stands before the first character of a text, so a sigma there is not a final one. -/
theorem lower_cons {c : Char} (h : c ≠ 'İ') (rest : List Char) :
    lower (c :: rest) = lowerOne c :: lowerFrom [c] rest := by
  rw [lower, lowerFrom, lowerAt]
  split_ifs with hsigma hfinal
  · simp [casedFirst] at hfinal
  · have hlower : lowerOne 'Σ' = 'σ' := by decide +kernel
    rw [hsigma, hlower]
    rfl
  · rfl

/-- The lower case of an ASCII text is found character by character. -/
theorem lowerFrom_ascii {text : List Char} (h : ∀ c ∈ text, c.toNat < 0x80)
    (before : List Char) : lowerFrom before text = text.map lowerOne := by
  induction text generalizing before with
  | nil => rfl
  | cons c rest ih =>
    have hc := h c List.mem_cons_self
    have hsigma : c ≠ 'Σ' := fun hc' ↦ absurd hc (by rw [hc']; decide)
    have hdotted : c ≠ 'İ' := fun hc' ↦ absurd hc (by rw [hc']; decide)
    rw [lowerFrom, lowerAt, if_neg hsigma, if_neg hdotted,
      ih fun d hd ↦ h d (List.mem_cons_of_mem _ hd)]
    rfl

end TermKeys.Unicode
