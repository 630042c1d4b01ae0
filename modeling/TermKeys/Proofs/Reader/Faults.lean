import Mathlib.Data.List.Basic
import Mathlib.Tactic.SplitIfs
import TermKeys.Proofs.Reader.View

/-!
Faults in the middle of a read. A reader takes the next binding only after it has read on to the one
behind it, so a fault on the way leaves the binding where it was, and the line of the fault behind.
Nothing is lost by that and nothing comes twice: what has been taken, followed by what a reader
still holds ready or has in front of it, stays the same from call to call (`bindingsAmong_pulls`),
and so do the faults that were met and those to come (`failures_pulls`). For the lines of a source
this is `pulls_of_start`.
-/

set_option autoImplicit false

namespace TermKeys.Reader

variable {settings : Settings} {lines : List RawLine} {reader : Reader}

/-! ### Entries of a source -/

/-- What the lines of a source hold in front of its end, each entry with the number of its line. -/
def entriesOf (settings : Settings) (lines : List RawLine) : List (Nat × Except Fault Binding) :=
  ((RawLine.upToEnd lines).zipIdx 1).filterMap fun line ↦
    (entryOf? settings line.1).map (line.2, ·)

theorem entriesFrom_eq (lines : List RawLine) (asked : Nat) :
    entriesFrom settings asked lines =
      ((RawLine.upToEnd lines).zipIdx (asked + 1)).filterMap fun line ↦
        (entryOf? settings line.1).map (line.2, ·) := by
  induction lines generalizing asked with
  | nil => rfl
  | cons line rest ih =>
    rw [entriesFrom]
    by_cases hempty : line.isEmpty = true
    · rw [if_pos hempty, upToEnd_cons_of_isEmpty hempty]
      rfl
    · rw [if_neg hempty, upToEnd_cons (Bool.eq_false_iff.mpr hempty), List.zipIdx_cons,
        List.filterMap_cons, ih]
      cases entryOf? settings line <;> rfl

/-- The bindings among some entries or answers, in order. -/
def bindingsAmong (entries : List (Except Fault Binding)) : List Binding :=
  entries.filterMap Except.toOption

/-- The faults among some entries, in order, each with the number of its line. -/
def failures (entries : List (Nat × Except Fault Binding)) : List (Nat × Fault) :=
  entries.filterMap fun entry ↦
    match entry.2 with
    | .ok _ => none
    | .error fault => some (entry.1, fault)

/-- How many of some answers are faults. -/
def raised (answers : List (Except Fault Binding)) : Nat :=
  answers.countP fun answer ↦ answer.toOption.isNone

theorem raised_cons (answer : Except Fault Binding) (rest : List (Except Fault Binding)) :
    raised (answer :: rest) = raised [answer] + raised rest := by
  unfold raised
  rw [List.countP_cons, List.countP_singleton, Nat.add_comm]

/-! ### Runs that go on after a fault -/

/-- Takes the next binding as long as one is left, at most the given number of times, whether or not
there are faults. -/
def pulls : Nat → Reader → List (Except Fault Binding) × Reader
  | 0, reader => ([], reader)
  | n + 1, reader =>
    if reader.hasNext then
      (reader.take.1.value :: (pulls n reader.take.2).1, (pulls n reader.take.2).2)
    else ([], reader)

/-- The entries that a view has still to deal with, the binding held ready among them. That one is
not numbered; its line has been read. -/
def View.outstanding (view : View) : List (Nat × Except Fault Binding) :=
  match view.next with
  | none => []
  | some held => (0, .ok held) :: view.pending

theorem hasNext_eq (reader : Reader) : reader.hasNext = !reader.view.outstanding.isEmpty := by
  unfold hasNext View.outstanding view
  cases reader.next <;> rfl

/-- The binding held ready is the first of those that are outstanding. -/
theorem next_prefix_outstanding (reader : Reader) :
    reader.next.toList <+: bindingsAmong (reader.view.outstanding.map Prod.snd) := by
  unfold View.outstanding view
  cases reader.next with
  | none => exact List.nil_prefix
  | some held => exact List.prefix_append [held] _

/-- Taking a binding deals with one entry: the binding is taken, or a fault is met. -/
theorem View.take_outstanding {view : View} (h : view.outstanding ≠ []) :
    bindingsAmong (view.outstanding.map Prod.snd) =
        bindingsAmong [view.take.1] ++ bindingsAmong (view.take.2.outstanding.map Prod.snd) ∧
      failures view.take.2.outstanding = (failures view.outstanding).drop (raised [view.take.1]) ∧
      view.outstanding.length = view.take.2.outstanding.length + 1 := by
  obtain ⟨description, next, pending, asked, total⟩ := view
  cases next with
  | none => exact absurd rfl h
  | some held =>
    rcases pending with _ | ⟨⟨number, fault | coming⟩, later⟩
    · exact ⟨rfl, rfl, rfl⟩
    · exact ⟨rfl, rfl, rfl⟩
    · exact ⟨rfl, rfl, rfl⟩

theorem take_outstanding (h : reader.hasNext = true) :
    bindingsAmong (reader.view.outstanding.map Prod.snd) =
        bindingsAmong [reader.take.1.value] ++
          bindingsAmong (reader.take.2.view.outstanding.map Prod.snd) ∧
      failures reader.take.2.view.outstanding =
        (failures reader.view.outstanding).drop (raised [reader.take.1.value]) ∧
      reader.view.outstanding.length = reader.take.2.view.outstanding.length + 1 := by
  have htake := Prod.mk.inj (view_take reader)
  rw [htake.1, htake.2]
  refine View.take_outstanding fun hnil ↦ ?_
  rw [hasNext_eq, hnil] at h
  exact nomatch h

/-- What has been taken and what is outstanding are together what was outstanding at first. -/
theorem bindingsAmong_pulls (n : Nat) (reader : Reader) :
    bindingsAmong (reader.view.outstanding.map Prod.snd) =
      bindingsAmong (pulls n reader).1 ++
        bindingsAmong ((pulls n reader).2.view.outstanding.map Prod.snd) := by
  induction n generalizing reader with
  | zero => rfl
  | succ n ih =>
    rw [pulls]
    split_ifs with hnext
    · rw [(take_outstanding hnext).1, ih reader.take.2, ← List.append_assoc]
      exact congrArg (· ++ _) List.filterMap_append.symm
    · rfl

/-- The faults that are outstanding are those behind the ones that were met. -/
theorem failures_pulls (n : Nat) (reader : Reader) :
    failures (pulls n reader).2.view.outstanding =
      (failures reader.view.outstanding).drop (raised (pulls n reader).1) := by
  induction n generalizing reader with
  | zero => rfl
  | succ n ih =>
    rw [pulls]
    split_ifs with hnext
    · dsimp only
      rw [ih reader.take.2, (take_outstanding hnext).2.1, List.drop_drop, ← raised_cons]
    · rfl

/-- Every call deals with one entry. -/
theorem length_outstanding_pulls (n : Nat) (reader : Reader) :
    (pulls n reader).2.view.outstanding.length = reader.view.outstanding.length - n := by
  induction n generalizing reader with
  | zero => rfl
  | succ n ih =>
    rw [pulls]
    split_ifs with hnext
    · have hstep := (take_outstanding hnext).2.2
      exact (ih reader.take.2).trans (by omega)
    · have hnil : reader.view.outstanding = [] := by
        rw [hasNext_eq] at hnext
        simpa using hnext
      rw [hnil, List.length_nil, Nat.zero_sub]

/-! ### Lines that are left -/

/-- Whether a reader of some lines has in front of it those that it has not asked for. -/
def KeepsPlace (lines : List RawLine) (source : Source) : Prop :=
  source.ended = false → source.lines = lines.drop source.asked

theorem keepsPlace_nextKey {all : List RawLine} (settings : Settings) {asked : Nat}
    (h : lines = all.drop asked) : KeepsPlace all (nextKey settings lines asked).2 := by
  induction lines generalizing asked with
  | nil =>
    intro hended
    cases hended
  | cons line rest ih =>
    have hrest : rest = all.drop (asked + 1) := by
      rw [← List.drop_drop, ← h]
      rfl
    cases hempty : line.isEmpty with
    | true =>
      rw [nextKey, if_pos hempty]
      intro hended
      cases hended
    | false =>
      cases hentry : entryOf? settings line with
      | none =>
        rw [(nextKey_cons_of_none hempty hentry rest asked).2]
        exact ih hrest
      | some entry =>
        rw [(nextKey_cons_of_some hempty hentry rest asked).2]
        exact fun _ ↦ hrest

theorem keepsPlace_take (h : KeepsPlace lines reader.source) :
    KeepsPlace lines reader.take.2.source := by
  unfold take
  split
  · exact h
  · split_ifs with hended
    · exact h
    · have hnext := keepsPlace_nextKey reader.settings (h (Bool.eq_false_iff.mpr hended))
      dsimp only
      split <;> exact hnext

theorem keepsPlace_pulls (n : Nat) (h : KeepsPlace lines reader.source) :
    KeepsPlace lines (pulls n reader).2.source := by
  induction n generalizing reader with
  | zero => exact h
  | succ n ih =>
    rw [pulls]
    split_ifs
    · exact ih (keepsPlace_take h)
    · exact h

/-- A fault leaves the binding held ready in place, and what is outstanding besides it begins behind
the line of the fault. -/
theorem take_of_error (hnext : reader.hasNext = true) {fault : Fault}
    (h : reader.take.1.value = .error fault) :
    reader.take.2.next = reader.next ∧ reader.take.2.source.ended = false ∧
      (failures reader.view.outstanding).head? = some (reader.take.2.source.asked, fault) := by
  obtain ⟨settings, description, next, ⟨lines, asked, ended⟩⟩ := reader
  cases next with
  | none => exact absurd hnext Bool.false_ne_true
  | some held =>
    cases ended with
    | true => cases h
    | false =>
      rw [take] at h ⊢
      dsimp only at h ⊢
      rw [if_neg Bool.false_ne_true] at h ⊢
      cases hentries : entriesFrom settings asked lines with
      | nil =>
        rw [(nextKey_of_nil hentries).1] at h
        cases h
      | cons first later =>
        obtain ⟨number, entry⟩ := first
        obtain ⟨hvalue, -, hasked, hended, -⟩ := nextKey_of_cons hentries
        rw [hvalue] at h ⊢
        cases entry with
        | ok coming => cases h
        | error met =>
          obtain rfl : met = fault := Except.error.inj h
          refine ⟨rfl, hended, ?_⟩
          simp [View.outstanding, view, Source.pending, hentries, failures, Except.map, hasked]

/-! ### From the lines of a source -/

theorem keepsPlace_start (hstart : (start settings lines).1.value = .ok reader) :
    KeepsPlace lines reader.source := by
  have hopening := (@opening_eq settings lines 0).2
  have hsource : reader.source = (opening settings lines 0).2 := by
    unfold start at hstart
    dsimp only [Noted.map] at hstart
    cases hvalue : (opening settings lines 0).1.value with
    | error fault =>
      rw [hvalue] at hstart
      exact nomatch hstart
    | ok parts =>
      rw [hvalue] at hstart
      obtain rfl := Except.ok.inj hstart
      rfl
  rw [hsource, hopening]
  exact keepsPlace_nextKey settings rfl

/-- All entries of its lines are outstanding for a new reader; the first of them is the binding that
it holds ready. -/
theorem outstanding_start (hstart : (start settings lines).1.value = .ok reader) :
    (entriesOf settings lines).head?.map Prod.snd = reader.next.map .ok ∧
      reader.view.outstanding.map Prod.snd = (entriesOf settings lines).map Prod.snd ∧
      failures reader.view.outstanding = failures (entriesOf settings lines) := by
  have hentries : entriesFrom settings 0 lines = entriesOf settings lines := entriesFrom_eq lines 0
  obtain ⟨found, hfound, -, hview⟩ := exists_start (first_ne_error hstart)
  obtain rfl : reader = found := Except.ok.inj (hstart.symm.trans hfound)
  have hnext := congrArg View.next hview
  have hfirst := first_ne_error hstart
  rw [hview]
  rw [hentries] at hnext hfirst ⊢
  change reader.next = _ at hnext
  rw [hnext]
  clear hview hnext hentries
  generalize entriesOf settings lines = entries at *
  cases entries with
  | nil => exact ⟨rfl, rfl, rfl⟩
  | cons first later =>
    obtain ⟨number, entry⟩ := first
    cases entry with
    | error fault => exact absurd rfl (hfirst fault)
    | ok held => exact ⟨rfl, rfl, rfl⟩

/-- Faults in the middle of a read lose nothing and bring nothing twice. -/
theorem pulls_of_start (hstart : (start settings lines).1.value = .ok reader) :
    let entries := entriesOf settings lines
    let all := bindingsAmong (entries.map Prod.snd)
    entries.head?.map Prod.snd = reader.next.map .ok ∧
      ∀ n,
        let answers := (pulls n reader).1
        let left := (pulls n reader).2
        left.hasNext = decide (n < entries.length) ∧
          bindingsAmong answers ++ left.next.toList <+: all ∧
          (left.hasNext = false → bindingsAmong answers = all) ∧
          ∀ fault, left.hasNext = true → left.take.1.value = .error fault →
            let after := left.take.2
            after.hasNext = true ∧ after.next = left.next ∧
              ∃ number, (failures entries)[raised answers]? = some (number, fault) ∧
                after.source.asked = number ∧ after.source.lines = lines.drop number := by
  intro entries all
  obtain ⟨hhead, houtstanding, hfailures⟩ := outstanding_start hstart
  refine ⟨hhead, fun n ↦ ?_⟩
  intro answers left
  have htaken := bindingsAmong_pulls n reader
  have hmet := failures_pulls n reader
  have hlength := length_outstanding_pulls n reader
  rw [houtstanding] at htaken
  rw [hfailures] at hmet
  have hcount : reader.view.outstanding.length = entries.length := by
    rw [← List.length_map Prod.snd, houtstanding, List.length_map]
  refine ⟨?_, ?_, ?_, ?_⟩
  · rw [hasNext_eq, Bool.eq_iff_iff, Bool.not_eq_true', List.isEmpty_eq_false_iff,
      ← List.length_pos_iff, hlength, hcount, decide_eq_true_iff]
    omega
  · rw [show all = _ from htaken]
    exact (List.prefix_append_right_inj _).mpr (next_prefix_outstanding left)
  · intro hdone
    have hnil : left.view.outstanding = [] := by
      rw [hasNext_eq] at hdone
      simpa using hdone
    rw [hnil] at htaken
    exact (htaken.trans (List.append_nil _)).symm
  · intro fault hnext herror after
    obtain ⟨hheld, hended, hfirst⟩ := take_of_error hnext herror
    refine ⟨?_, hheld, after.source.asked, ?_, rfl, ?_⟩
    · unfold hasNext at hnext ⊢
      rwa [hheld]
    · rw [← hfirst, hmet, List.head?_drop]
    · exact keepsPlace_take (keepsPlace_pulls n (keepsPlace_start hstart)) hended

/-- Lines of both kinds where nothing goes by the name of the encoding for bytes and no text can be
written: the first call fails on the third line and the second on the fourth. -/
theorem pulls_of_start_mixed :
    let settings := { Settings.trial with
      inputEncoding := "none".toList, outputEncoding := "hex".toList }
    let lines : List RawLine := [.text "# keys\n".toList, .text "key A : erase\n".toList,
      .bytes (Utf8.encode "key B : erase\n".toList), .text "key C : \"c\"\n".toList,
      .text "junk\n".toList, .text "key D : scrollPageUp\n".toList]
    ∃ reader, (start settings lines).1.value = .ok reader ∧
      (pulls 1 reader).2.take.1.value = .error (.notTextEncoding "hex".toList .encode) ∧
      (pulls 1 reader).2.take.2.next = (pulls 1 reader).2.next ∧
      (pulls 1 reader).2.take.2.source.lines = lines.drop 4 ∧
      bindingsAmong (pulls 4 reader).1 =
        [{ keyCode := 0x41, command := .erase, text := [] },
         { keyCode := 0x44, command := .scrollPageUp, text := [] }] := by
  intro settings lines
  have hsecond : (start settings lines).1.value.map
      (fun reader ↦ (pulls 1 reader).2.take.1.value) =
        .ok (.error (.notTextEncoding "hex".toList .encode)) := by decide +kernel
  cases hstart : (start settings lines).1.value with
  | error fault =>
    rw [hstart] at hsecond
    exact nomatch hsecond
  | ok reader =>
    rw [hstart] at hsecond
    have herror := Except.ok.inj hsecond
    obtain ⟨-, hruns⟩ := pulls_of_start hstart
    have hnext : (pulls 1 reader).2.hasNext = true :=
      (hruns 1).1.trans (by decide +kernel)
    have hdone : (pulls 4 reader).2.hasNext = false :=
      (hruns 4).1.trans (by decide +kernel)
    obtain ⟨-, hheld, number, hnumber, -, hlines⟩ := (hruns 1).2.2.2 _ hnext herror
    have hfailures : failures (entriesOf settings lines) =
        [(3, .unknownEncoding "none".toList), (4, .notTextEncoding "hex".toList .encode)] := by
      decide +kernel
    obtain rfl : number = 4 := by
      have hmem := List.mem_of_getElem? hnumber
      rw [hfailures] at hmem
      simpa using hmem
    refine ⟨reader, rfl, herror, hheld, hlines, ((hruns 4).2.2.1 hdone).trans ?_⟩
    decide +kernel

end TermKeys.Reader
