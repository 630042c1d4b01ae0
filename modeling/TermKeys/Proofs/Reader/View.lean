import Mathlib.Tactic.SplitIfs
import TermKeys.Reader

/-!
What a reader has in front of it. `Reader.entriesFrom` lists what the lines of a source hold, each
entry with the number of the request that brings its line, and `Reader.view` is a reader seen this
way: the binding it holds ready, the entries that come after it and how often it has asked for a
line. Taking a binding is one step on such a view (`view_take`), and a new reader has the view of
its lines (`start_of_fault` and `exists_start`), with the title that stands in front of the first
entry.
-/

set_option autoImplicit false

namespace TermKeys

/-- The lines that a source hands out in front of the first empty one. -/
def RawLine.upToEnd (lines : List RawLine) : List RawLine :=
  lines.takeWhile fun line ↦ !line.isEmpty

namespace Reader

/-! ### What lines hold -/

/-- What a line holds for a reader: a binding, or the fault that stands in its way. Any other line
is passed over. -/
def entryOf? (settings : Settings) (line : RawLine) : Option (Except Fault Binding) :=
  match line.decode settings.inputEncoding with
  | .error fault => some (.error fault)
  | .ok text =>
    match Line.read text with
    | .key descriptor action => some (bindingOf settings descriptor action).value
    | _ => none

/-- What the lines of a source hold, each entry with the number of the request for its line, if
some requests were made before. -/
def entriesFrom (settings : Settings) : Nat → List RawLine → List (Nat × Except Fault Binding)
  | _, [] => []
  | asked, line :: rest =>
    if line.isEmpty then []
    else match entryOf? settings line with
      | none => entriesFrom settings (asked + 1) rest
      | some entry => (asked + 1, entry) :: entriesFrom settings (asked + 1) rest

/-- The title in front of the first entry of some lines; empty if there is none. -/
def titleOf (settings : Settings) : List RawLine → Text
  | [] => []
  | line :: rest =>
    if line.isEmpty then []
    else match line.decode settings.inputEncoding with
      | .error _ => []
      | .ok text =>
        match Line.read text with
        | .key _ _ => []
        | .title title => title
        | _ => titleOf settings rest

end Reader

/-- The entries that a source still holds. -/
def Source.pending (settings : Settings) (source : Source) : List (Nat × Except Fault Binding) :=
  if source.ended then [] else Reader.entriesFrom settings source.asked source.lines

/-- How often a source has been asked for a line once its end has been seen. -/
def Source.total (source : Source) : Nat :=
  if source.ended then source.asked
  else source.asked + (RawLine.upToEnd source.lines).length + 1

namespace Reader

variable {settings : Settings}

theorem upToEnd_cons {line : RawLine} (h : line.isEmpty = false) (rest : List RawLine) :
    RawLine.upToEnd (line :: rest) = line :: RawLine.upToEnd rest :=
  List.takeWhile_cons_of_pos (by simp [h])

theorem upToEnd_cons_of_isEmpty {line : RawLine} (h : line.isEmpty = true)
    (rest : List RawLine) : RawLine.upToEnd (line :: rest) = [] :=
  List.takeWhile_cons_of_neg (by simp [h])

/-! ### Reading on -/

/-- A line that holds nothing is passed over. -/
theorem nextKey_cons_of_none {line : RawLine} (hempty : line.isEmpty = false)
    (h : entryOf? settings line = none) (rest : List RawLine) (asked : Nat) :
    (nextKey settings (line :: rest) asked).1.value =
        (nextKey settings rest (asked + 1)).1.value ∧
      (nextKey settings (line :: rest) asked).2 = (nextKey settings rest (asked + 1)).2 := by
  unfold entryOf? at h
  rw [nextKey, if_neg (by simp [hempty])]
  cases hdecode : line.decode settings.inputEncoding with
  | error fault => simp [hdecode] at h
  | ok text =>
    simp only [hdecode] at h ⊢
    cases hread : Line.read text with
    | key descriptor action => simp [hread] at h
    | nothing | title _ | unreadable _ => exact ⟨rfl, rfl⟩

/-- A reader stops behind a line that holds an entry. -/
theorem nextKey_cons_of_some {line : RawLine} {entry : Except Fault Binding}
    (hempty : line.isEmpty = false) (h : entryOf? settings line = some entry)
    (rest : List RawLine) (asked : Nat) :
    (nextKey settings (line :: rest) asked).1.value = entry.map some ∧
      (nextKey settings (line :: rest) asked).2 = ⟨rest, asked + 1, false⟩ := by
  unfold entryOf? at h
  rw [nextKey, if_neg (by simp [hempty])]
  cases hdecode : line.decode settings.inputEncoding with
  | error fault =>
    rw [hdecode] at h
    obtain rfl := Option.some.inj h
    exact ⟨rfl, rfl⟩
  | ok text =>
    simp only [hdecode] at h ⊢
    cases hread : Line.read text with
    | key descriptor action =>
      rw [hread] at h
      obtain rfl := Option.some.inj h
      exact ⟨rfl, rfl⟩
    | nothing | title _ | unreadable _ => simp [hread] at h

/-- Without an entry in front of it, a reader reads to the end. -/
theorem nextKey_of_nil {lines : List RawLine} {asked : Nat}
    (h : entriesFrom settings asked lines = []) :
    (nextKey settings lines asked).1.value = .ok none ∧
      (nextKey settings lines asked).2.ended = true ∧
      (nextKey settings lines asked).2.asked = asked + (RawLine.upToEnd lines).length + 1 := by
  induction lines generalizing asked with
  | nil => exact ⟨rfl, rfl, rfl⟩
  | cons line rest ih =>
    rw [entriesFrom] at h
    cases hempty : line.isEmpty with
    | true =>
      rw [nextKey, if_pos hempty, upToEnd_cons_of_isEmpty hempty]
      exact ⟨rfl, rfl, rfl⟩
    | false =>
      rw [if_neg (by simp [hempty])] at h
      cases hentry : entryOf? settings line with
      | some entry => simp [hentry] at h
      | none =>
        rw [hentry] at h
        obtain ⟨hvalue, hsource⟩ := nextKey_cons_of_none hempty hentry rest asked
        obtain ⟨hnone, hended, hasked⟩ := ih h
        rw [hvalue, hsource, upToEnd_cons hempty, List.length_cons]
        exact ⟨hnone, hended, hasked.trans (by omega)⟩

/-- A reader reads up to the first entry in front of it, and the later ones are left. -/
theorem nextKey_of_cons {lines : List RawLine} {asked number : Nat} {entry : Except Fault Binding}
    {later : List (Nat × Except Fault Binding)}
    (h : entriesFrom settings asked lines = (number, entry) :: later) :
    (nextKey settings lines asked).1.value = entry.map some ∧
      (nextKey settings lines asked).2.pending settings = later ∧
      (nextKey settings lines asked).2.asked = number ∧
      (nextKey settings lines asked).2.ended = false ∧
      (nextKey settings lines asked).2.total =
        asked + (RawLine.upToEnd lines).length + 1 := by
  induction lines generalizing asked with
  | nil => simp [entriesFrom] at h
  | cons line rest ih =>
    rw [entriesFrom] at h
    cases hempty : line.isEmpty with
    | true => simp [hempty] at h
    | false =>
      rw [if_neg (by simp [hempty])] at h
      rw [upToEnd_cons hempty, List.length_cons]
      cases hentry : entryOf? settings line with
      | none =>
        rw [hentry] at h
        obtain ⟨hvalue, hsource⟩ := nextKey_cons_of_none hempty hentry rest asked
        obtain ⟨hfirst, hpending, hasked, hended, htotal⟩ := ih h
        rw [hvalue, hsource]
        exact ⟨hfirst, hpending, hasked, hended, htotal.trans (by omega)⟩
      | some found =>
        simp only [hentry, List.cons.injEq, Prod.mk.injEq] at h
        obtain ⟨⟨rfl, rfl⟩, rfl⟩ := h
        obtain ⟨hvalue, hsource⟩ := nextKey_cons_of_some hempty hentry rest asked
        rw [hvalue, hsource]
        refine ⟨rfl, rfl, rfl, rfl, ?_⟩
        rw [Source.total, if_neg Bool.false_ne_true]
        dsimp only
        omega

/-- The first lines of a source are read as any others are, but for the title among them. -/
theorem opening_eq (lines : List RawLine) (asked : Nat) :
    (opening settings lines asked).1.value =
        (nextKey settings lines asked).1.value.map (fun next ↦ (titleOf settings lines, next)) ∧
      (opening settings lines asked).2 = (nextKey settings lines asked).2 := by
  induction lines generalizing asked with
  | nil => exact ⟨rfl, rfl⟩
  | cons line rest ih =>
    rw [opening, nextKey, titleOf]
    cases hempty : line.isEmpty with
    | true => exact ⟨rfl, rfl⟩
    | false =>
      simp only [Bool.false_eq_true, if_false]
      cases hdecode : line.decode settings.inputEncoding with
      | error fault => exact ⟨rfl, rfl⟩
      | ok text =>
        dsimp only
        cases hread : Line.read text with
        | key descriptor action =>
          simp only [Noted.map]
          cases (bindingOf settings descriptor action).value <;> simp [Except.map]
        | title title => exact ⟨rfl, rfl⟩
        | nothing | unreadable _ =>
          obtain ⟨hvalue, hsource⟩ := ih (asked + 1)
          exact ⟨hvalue, hsource⟩

/-! ### Views -/

/-- A reader as a state of its own: the title it found, the binding it holds ready, the entries
that come after it, how often it has asked for a line and how often it will have at the end. -/
structure View where
  description : Text
  next : Option Binding
  pending : List (Nat × Except Fault Binding)
  asked : Nat
  total : Nat

/-- The view of a reader. -/
def view (reader : Reader) : View where
  description := reader.description
  next := reader.next
  pending := reader.source.pending reader.settings
  asked := reader.source.asked
  total := reader.source.total

/-- Takes the next binding of a view. The entry after it becomes the next one; a fault in its place
is passed over, and the binding stays. -/
def View.take (view : View) : Except Fault Binding × View :=
  match view.next with
  | none => (.error .exhausted, view)
  | some binding =>
    match view.pending with
    | [] => (.ok binding, { view with next := none, asked := view.total })
    | (number, .ok next) :: later =>
      (.ok binding, { view with next := some next, pending := later, asked := number })
    | (number, .error fault) :: later =>
      (.error fault, { view with pending := later, asked := number })

/-- Taking a binding from a reader is taking it from its view. -/
theorem view_take (reader : Reader) :
    (reader.take.1.value, reader.take.2.view) = reader.view.take := by
  obtain ⟨settings, description, next, lines, asked, ended⟩ := reader
  cases next with
  | none => rfl
  | some binding =>
    cases ended with
    | true => rfl
    | false =>
      rw [take, View.take]
      simp only [view, Source.pending, Bool.false_eq_true, if_false]
      cases hentries : entriesFrom settings asked lines with
      | nil =>
        obtain ⟨hvalue, hended, hasked⟩ := nextKey_of_nil hentries
        simp [hvalue, hended, hasked, Source.total]
      | cons first later =>
        obtain ⟨number, entry⟩ := first
        obtain ⟨hvalue, hpending, hasked, hended, htotal⟩ := nextKey_of_cons hentries
        simp only [Source.pending, hended, Bool.false_eq_true, if_false] at hpending
        cases entry <;>
          simp_all [Except.map, Source.total]

/-- A source whose first entry is a fault makes no reader. -/
theorem start_of_fault {lines : List RawLine} {number : Nat} {fault : Fault}
    {later : List (Nat × Except Fault Binding)}
    (h : entriesFrom settings 0 lines = (number, .error fault) :: later) :
    (start settings lines).1.value = .error fault ∧ (start settings lines).2.asked = number := by
  obtain ⟨hvalue, -, hasked, -, -⟩ := nextKey_of_cons h
  obtain ⟨hopening, hsource⟩ := @opening_eq settings lines 0
  rw [hvalue] at hopening
  constructor
  · change ((opening settings lines 0).1.value.map _) = _
    rw [hopening]
    rfl
  · change (opening settings lines 0).2.asked = _
    rw [hsource, hasked]

/-- Any other source makes a reader that holds the first entry ready. -/
theorem exists_start {lines : List RawLine}
    (h : ∀ fault, ((entriesFrom settings 0 lines).head?.map Prod.snd) ≠ some (.error fault)) :
    ∃ reader, (start settings lines).1.value = .ok reader ∧ reader.settings = settings ∧
      reader.view =
        { description := titleOf settings lines
          next := ((entriesFrom settings 0 lines).head?.map Prod.snd).bind Except.toOption
          pending := (entriesFrom settings 0 lines).tail
          asked := ((entriesFrom settings 0 lines).head?.map Prod.fst).getD
            ((RawLine.upToEnd lines).length + 1)
          total := (RawLine.upToEnd lines).length + 1 } := by
  obtain ⟨hopening, hsource⟩ := @opening_eq settings lines 0
  have hstart : (start settings lines).1.value = (opening settings lines 0).1.value.map
      fun parts ↦ ⟨settings, parts.1, parts.2, (opening settings lines 0).2⟩ := rfl
  rw [hopening, hsource] at hstart
  cases hentries : entriesFrom settings 0 lines with
  | nil =>
    obtain ⟨hvalue, hended, hasked⟩ := nextKey_of_nil hentries
    rw [hvalue] at hstart
    refine ⟨_, hstart, rfl, ?_⟩
    simp [view, Source.pending, Source.total, hended, hasked]
  | cons first later =>
    obtain ⟨number, entry⟩ := first
    obtain ⟨hvalue, hpending, hasked, hended, htotal⟩ := nextKey_of_cons hentries
    cases entry with
    | error fault => exact absurd (by rw [hentries]; rfl) (h fault)
    | ok binding =>
      rw [hvalue] at hstart
      refine ⟨_, hstart, rfl, ?_⟩
      simp [view, hpending, hasked, htotal, Except.toOption]

/-- The first entry of a source that makes a reader is no fault. -/
theorem first_ne_error {lines : List RawLine} {reader : Reader}
    (hstart : (start settings lines).1.value = .ok reader) (fault : Fault) :
    ((entriesFrom settings 0 lines).head?.map Prod.snd) ≠ some (.error fault) := by
  intro hhead
  cases hentries : entriesFrom settings 0 lines with
  | nil => simp [hentries] at hhead
  | cons first later =>
    obtain ⟨number, entry⟩ := first
    obtain rfl : entry = .error fault := by simpa [hentries] using hhead
    have herror := (start_of_fault hentries).1
    rw [hstart] at herror
    exact nomatch herror

/-! ### What is handed out -/

/-- A binding that a reader hands out, now or after more calls. -/
inductive Yields : Reader → Binding → Prop
  | now {reader : Reader} {binding : Binding} :
    reader.take.1.value = .ok binding → Yields reader binding
  | later {reader : Reader} {binding : Binding} :
    Yields reader.take.2 binding → Yields reader binding

/-- A binding that a view holds ready or has still to come. -/
def View.Holds (view : View) (binding : Binding) : Prop :=
  view.next = some binding ∨ ∃ number, (number, .ok binding) ∈ view.pending

/-- What is taken from a view, or held by it after that, was held by it before. -/
theorem View.holds_of_take {view : View} {binding : Binding}
    (h : view.take.1 = .ok binding ∨ view.take.2.Holds binding) : view.Holds binding := by
  obtain ⟨description, next, pending, asked, total⟩ := view
  unfold View.take View.Holds at *
  cases next with
  | none => simpa using h
  | some held =>
    rcases pending with _ | ⟨⟨number, fault | coming⟩, later⟩
    · simpa using h
    · simp_all
    · rcases h with h | h | ⟨other, h⟩
      · exact Or.inl (congrArg some (Except.ok.inj h))
      · exact Or.inr ⟨number, by simp [Option.some.inj h]⟩
      · exact Or.inr ⟨other, List.mem_cons_of_mem _ h⟩

theorem holds_of_yields {reader : Reader} {binding : Binding} (h : reader.Yields binding) :
    reader.view.Holds binding := by
  induction h with
  | @now reader binding hvalue =>
    have htake := congrArg Prod.fst (view_take reader)
    exact View.holds_of_take (Or.inl (htake.symm.trans hvalue))
  | @later reader binding _ ih =>
    have htake := congrArg Prod.snd (view_take reader)
    exact View.holds_of_take (Or.inr (htake ▸ ih))

theorem mem_entriesFrom {lines : List RawLine} {asked number : Nat} {entry : Except Fault Binding}
    (h : (number, entry) ∈ entriesFrom settings asked lines) :
    ∃ line ∈ lines, entryOf? settings line = some entry := by
  induction lines generalizing asked with
  | nil => simp [entriesFrom] at h
  | cons line rest ih =>
    rw [entriesFrom] at h
    split_ifs at h with hempty
    · simp at h
    · cases hentry : entryOf? settings line with
      | none =>
        rw [hentry] at h
        obtain ⟨other, hother, hfound⟩ := ih h
        exact ⟨other, List.mem_cons_of_mem _ hother, hfound⟩
      | some found =>
        rw [hentry] at h
        rcases List.mem_cons.mp h with heq | h
        · exact ⟨line, List.mem_cons_self, by rw [hentry, (Prod.mk.inj heq).2]⟩
        · obtain ⟨other, hother, hfound⟩ := ih h
          exact ⟨other, List.mem_cons_of_mem _ hother, hfound⟩

/-- Every binding that a reader hands out is that of one of its lines. -/
theorem exists_line_of_yields {lines : List RawLine} {reader : Reader} {binding : Binding}
    (hstart : (start settings lines).1.value = .ok reader) (h : reader.Yields binding) :
    ∃ line ∈ lines, entryOf? settings line = some (.ok binding) := by
  obtain ⟨found, hfound, -, hview⟩ := exists_start (first_ne_error hstart)
  obtain rfl : reader = found := Except.ok.inj (hstart.symm.trans hfound)
  have hholds := holds_of_yields h
  rw [hview] at hholds
  cases hentries : entriesFrom settings 0 lines with
  | nil => simp [View.Holds, hentries] at hholds
  | cons first later =>
    obtain ⟨number, entry⟩ := first
    rw [hentries] at hholds
    rcases hholds with hnext | ⟨other, hpending⟩
    · cases entry with
      | error fault => simp [Except.toOption] at hnext
      | ok held =>
        obtain rfl : held = binding := by simpa [Except.toOption] using hnext
        exact mem_entriesFrom (hentries ▸ List.mem_cons_self)
    · exact mem_entriesFrom (hentries ▸ List.mem_cons_of_mem _ hpending)

/-- Whatever is taken until none is left is handed out. -/
theorem yields_of_takeUpTo {n : Nat} {reader : Reader} {bindings : List Binding}
    (h : (takeUpTo n reader).1.value = .ok bindings) {binding : Binding}
    (hmem : binding ∈ bindings) : reader.Yields binding := by
  induction n generalizing reader bindings with
  | zero =>
    obtain rfl : [] = bindings := Except.ok.inj h
    simp at hmem
  | succ n ih =>
    rw [takeUpTo] at h
    split_ifs at h
    · dsimp only at h
      cases hvalue : reader.take.1.value with
      | error fault =>
        rw [hvalue] at h
        exact nomatch h
      | ok first =>
        rw [hvalue] at h
        simp only [Noted.after, Noted.map] at h
        cases hothers : (takeUpTo n reader.take.2).1.value with
        | error fault =>
          rw [hothers] at h
          exact nomatch h
        | ok others =>
          rw [hothers] at h
          obtain rfl : first :: others = bindings := Except.ok.inj h
          rcases List.mem_cons.mp hmem with rfl | hmem
          · exact .now hvalue
          · exact .later (ih hothers hmem)
    · obtain rfl : [] = bindings := Except.ok.inj h
      simp at hmem

end Reader

/-- A binding that some reader hands out, whatever its lines and its settings. -/
def Binding.IsRead (binding : Binding) : Prop :=
  ∃ (settings : Settings) (lines : List RawLine) (reader : Reader),
    (Reader.start settings lines).1.value = .ok reader ∧ reader.Yields binding

end TermKeys
