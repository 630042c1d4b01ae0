import TermKeys.Proofs.Reader.Faults

/-!
Reading to the end in one go. A reader that is asked for all bindings hands out those that are
outstanding for it, or stops at the first fault on the way (`value_takeUpTo`). From the lines of a
source these are what the lines hold, in their order (`takeAll_of_start`).
-/

set_option autoImplicit false

namespace TermKeys.Reader

variable {settings : Settings}

/-- The bindings of some entries, or the fault of the first entry that is one. -/
def allBindings (entries : List (Except Fault Binding)) : Except Fault (List Binding) :=
  entries.mapM id

theorem allBindings_cons (entry : Except Fault Binding) (rest : List (Except Fault Binding)) :
    allBindings (entry :: rest) = entry.bind fun b ↦ (allBindings rest).map (b :: ·) := by
  unfold allBindings
  rw [List.mapM_cons]
  cases entry with
  | error fault => rfl
  | ok b => cases rest.mapM id <;> rfl

@[simp] theorem allBindings_map_ok (bindings : List Binding) :
    allBindings (bindings.map .ok) = .ok bindings := by
  induction bindings with
  | nil => rfl
  | cons b rest ih =>
    rw [List.map_cons, allBindings_cons, ih]
    rfl

/-- Entries make bindings just when none of them is a fault. -/
theorem allBindings_cases (entries : List (Except Fault Binding)) :
    (∃ bindings, allBindings entries = .ok bindings ∧ entries = bindings.map .ok) ∨
      ∃ fault, allBindings entries = .error fault ∧ .error fault ∈ entries := by
  induction entries with
  | nil => exact Or.inl ⟨[], rfl, rfl⟩
  | cons entry rest ih =>
    rw [allBindings_cons]
    cases entry with
    | error fault => exact Or.inr ⟨fault, rfl, List.mem_cons_self⟩
    | ok b =>
      rcases ih with ⟨bindings, hrest, heq⟩ | ⟨fault, hrest, hmem⟩
      · exact Or.inl ⟨b :: bindings, by rw [hrest]; rfl, by rw [heq]; rfl⟩
      · exact Or.inr ⟨fault, by rw [hrest]; rfl, List.mem_cons_of_mem _ hmem⟩

/-! ### Taking until none is left -/

/-- Taking a binding from a view and then all others is taking all of them. -/
theorem View.allBindings_outstanding {view : View} (h : view.outstanding ≠ []) :
    allBindings (view.outstanding.map Prod.snd) =
      view.take.1.bind fun b ↦
        (allBindings (view.take.2.outstanding.map Prod.snd)).map (b :: ·) := by
  obtain ⟨description, next, pending, asked, total⟩ := view
  cases next with
  | none => exact absurd rfl h
  | some held =>
    rcases pending with _ | ⟨⟨number, fault | coming⟩, later⟩
    · rfl
    · rfl
    · exact allBindings_cons (.ok held) _

theorem allBindings_outstanding {reader : Reader} (h : reader.hasNext = true) :
    allBindings (reader.view.outstanding.map Prod.snd) =
      reader.take.1.value.bind fun b ↦
        (allBindings (reader.take.2.view.outstanding.map Prod.snd)).map (b :: ·) := by
  have hvalue : reader.take.1.value = reader.view.take.1 := congrArg Prod.fst (view_take reader)
  have hafter : reader.take.2.view = reader.view.take.2 := congrArg Prod.snd (view_take reader)
  rw [hvalue, hafter]
  refine View.allBindings_outstanding fun hnil ↦ ?_
  rw [hasNext_eq, hnil] at h
  exact nomatch h

/-- Taking until none is left gives all bindings that are outstanding, or the first fault. -/
theorem value_takeUpTo {reader : Reader} {n : Nat} (hn : reader.view.outstanding.length ≤ n) :
    (takeUpTo n reader).1.value = allBindings (reader.view.outstanding.map Prod.snd) := by
  induction n generalizing reader with
  | zero =>
    rw [List.eq_nil_of_length_eq_zero (Nat.le_zero.mp hn)]
    rfl
  | succ n ih =>
    rw [takeUpTo]
    split_ifs with hnext
    · have hlength := (take_outstanding hnext).2.2
      rw [allBindings_outstanding hnext, ← ih (by omega)]
      dsimp only
      cases reader.take.1.value <;> rfl
    · have hnil : reader.view.outstanding = [] := by
        rw [hasNext_eq] at hnext
        simpa using hnext
      rw [hnil]
      rfl

theorem length_entriesFrom_le (lines : List RawLine) (asked : Nat) :
    (entriesFrom settings asked lines).length ≤ lines.length := by
  induction lines generalizing asked with
  | nil => exact Nat.le_refl _
  | cons line rest ih =>
    rw [entriesFrom]
    split_ifs
    · exact Nat.zero_le _
    · split
      · exact Nat.le_succ_of_le (ih _)
      · exact Nat.succ_le_succ (ih _)

theorem length_outstanding_le (reader : Reader) :
    reader.view.outstanding.length ≤ reader.source.lines.length + 1 := by
  unfold View.outstanding
  cases hnext : reader.view.next with
  | none => exact Nat.zero_le _
  | some held =>
    refine Nat.succ_le_succ ?_
    change (reader.source.pending reader.settings).length ≤ _
    unfold Source.pending
    split_ifs
    · exact Nat.zero_le _
    · exact length_entriesFrom_le _ _

/-! ### From the lines of a source -/

/-- What the lines of a source hold, without the numbers of the lines. -/
theorem map_snd_entriesOf (settings : Settings) (lines : List RawLine) :
    (entriesOf settings lines).map Prod.snd =
      (RawLine.upToEnd lines).filterMap (entryOf? settings) := by
  have hline : ∀ line : RawLine × Nat,
      ((entryOf? settings line.1).map (line.2, ·)).map Prod.snd = entryOf? settings line.1 := by
    intro line
    cases entryOf? settings line.1 <;> rfl
  simp only [entriesOf, List.map_filterMap, hline]
  rw [← Function.comp_def, ← List.filterMap_map, List.zipIdx_map_fst]

/-- A source that makes no reader has a fault for its first entry. -/
theorem allBindings_of_start_error {lines : List RawLine} {fault : Fault}
    (h : (start settings lines).1.value = .error fault) :
    allBindings ((RawLine.upToEnd lines).filterMap (entryOf? settings)) = .error fault := by
  have hentries : entriesFrom settings 0 lines = entriesOf settings lines := entriesFrom_eq lines 0
  rw [← map_snd_entriesOf, ← hentries]
  by_cases hfirst : ∃ met,
      (entriesFrom settings 0 lines).head?.map Prod.snd = some (.error met)
  · obtain ⟨met, hmet⟩ := hfirst
    obtain ⟨⟨number, entry⟩, hhead, rfl⟩ := Option.map_eq_some_iff.mp hmet
    obtain ⟨later, hsplit⟩ := List.head?_eq_some_iff.mp hhead
    obtain rfl := Except.error.inj (h.symm.trans (start_of_fault hsplit).1)
    rw [hsplit]
    rfl
  · obtain ⟨reader, hstart, -⟩ := exists_start (not_exists.mp hfirst)
    rw [hstart] at h
    exact nomatch h

/-- A new reader hands out all bindings of its lines, or stops at the first fault among them. -/
theorem takeAll_of_start {lines : List RawLine} {reader : Reader}
    (h : (start settings lines).1.value = .ok reader) :
    reader.description = titleOf settings lines ∧
      reader.takeAll.1.value =
        allBindings ((RawLine.upToEnd lines).filterMap (entryOf? settings)) := by
  refine ⟨?_, ?_⟩
  · obtain ⟨found, hfound, -, hview⟩ := exists_start (first_ne_error h)
    obtain rfl : reader = found := Except.ok.inj (h.symm.trans hfound)
    exact congrArg View.description hview
  · rw [takeAll, value_takeUpTo (length_outstanding_le reader), (outstanding_start h).2.1,
      map_snd_entriesOf]

end TermKeys.Reader
