import Mathlib.Data.List.Forall2
import TermKeys.Proofs.Reader.Calls

/-!
Sources that look alike. Of a line a reader sees only what it says, whether it came as a text or as
bytes (`RawLine.Alike`); all lines of no known form say nothing. Two sources with such lines, one
after the other, make readers with the same view, if the encoding for output is the same; so a
caller gets the same title and the same answers to any calls, or the same fault
(`transcript_congr`).
-/

set_option autoImplicit false

namespace TermKeys

/-- What a line says: one of no known form says nothing. -/
def Line.said : Line → Line
  | unreadable _ => nothing
  | line => line

/-- Lines with the same tokens say the same. -/
theorem Line.said_eq_of_tokens_eq {line twin : Line} (h : line.tokens = twin.tokens) :
    line.said = twin.said := by
  cases line with
  | key descriptor action =>
    cases twin with
    | key other same => cases action <;> cases same <;> simp_all [tokens, Action.token]
    | _ => simp [tokens] at h
  | _ => cases twin <;> simp_all [tokens, said]

/-- Lines that two readers cannot tell apart: both are the end of their source or neither is, and
they say the same or meet the same fault. -/
structure RawLine.Alike (settings other : Settings) (line twin : RawLine) : Prop where
  isEmpty_eq : line.isEmpty = twin.isEmpty
  said_eq : ((line.decode settings.inputEncoding).map fun text ↦ (Line.read text).said) =
    (twin.decode other.inputEncoding).map fun text ↦ (Line.read text).said

theorem RawLine.Alike.refl (settings : Settings) (line : RawLine) :
    RawLine.Alike settings settings line line :=
  ⟨rfl, rfl⟩

namespace Reader

/-- What a caller gets of some lines: the title and the answers to some calls, or the fault in place
of a reader. -/
def transcript (settings : Settings) (lines : List RawLine) (cs : List Call) :
    Except Fault (Text × List Answer) :=
  (start settings lines).1.value.map fun reader ↦ (reader.description, (reader.calls cs).1)

/-! ### Lines -/

section Lines

variable {settings other : Settings} {lines twins : List RawLine}

/-- What a line holds, told by what it says. -/
theorem entryOf?_eq (settings : Settings) (line : RawLine) :
    entryOf? settings line =
      match (line.decode settings.inputEncoding).map fun text ↦ (Line.read text).said with
      | .error fault => some (.error fault)
      | .ok (.key descriptor action) => some (bindingOf settings descriptor action).value
      | .ok _ => none := by
  unfold entryOf?
  cases line.decode settings.inputEncoding with
  | error fault => rfl
  | ok text =>
    dsimp only [Except.map]
    cases Line.read text <;> rfl

/-- The title of some lines, told by what they say. -/
theorem titleOf_cons {line : RawLine} (h : line.isEmpty = false) (rest : List RawLine) :
    titleOf settings (line :: rest) =
      match (line.decode settings.inputEncoding).map fun text ↦ (Line.read text).said with
      | .error _ => []
      | .ok (.key _ _) => []
      | .ok (.title title) => title
      | .ok _ => titleOf settings rest := by
  rw [titleOf, if_neg (by simp [h])]
  cases line.decode settings.inputEncoding with
  | error fault => rfl
  | ok text =>
    dsimp only [Except.map]
    cases Line.read text <;> rfl

theorem bindingOf_congr (hout : settings.outputEncoding = other.outputEncoding) (descriptor : Text)
    (action : Action) :
    bindingOf settings descriptor action = bindingOf other descriptor action := by
  unfold bindingOf
  rw [hout]

theorem entryOf?_congr (hout : settings.outputEncoding = other.outputEncoding)
    {line twin : RawLine} (h : RawLine.Alike settings other line twin) :
    entryOf? settings line = entryOf? other twin := by
  rw [entryOf?_eq, entryOf?_eq, h.said_eq]
  simp only [bindingOf_congr hout]

theorem entriesFrom_congr (hout : settings.outputEncoding = other.outputEncoding)
    (h : List.Forall₂ (RawLine.Alike settings other) lines twins) (asked : Nat) :
    entriesFrom settings asked lines = entriesFrom other asked twins := by
  induction h generalizing asked with
  | nil => rfl
  | @cons line twin _ _ hline _ ih =>
    rw [entriesFrom, entriesFrom, hline.isEmpty_eq, entryOf?_congr hout hline, ih]

theorem titleOf_congr (h : List.Forall₂ (RawLine.Alike settings other) lines twins) :
    titleOf settings lines = titleOf other twins := by
  induction h with
  | nil => rfl
  | @cons line twin _ _ hline _ ih =>
    by_cases hempty : line.isEmpty = true
    · rw [titleOf, titleOf, if_pos hempty, if_pos (hline.isEmpty_eq ▸ hempty)]
    · have hfalse : line.isEmpty = false := Bool.eq_false_iff.mpr hempty
      rw [titleOf_cons hfalse, titleOf_cons (hline.isEmpty_eq.symm.trans hfalse), hline.said_eq, ih]

theorem length_upToEnd_congr (h : List.Forall₂ (RawLine.Alike settings other) lines twins) :
    (RawLine.upToEnd lines).length = (RawLine.upToEnd twins).length := by
  induction h with
  | nil => rfl
  | @cons line twin _ _ hline _ ih =>
    by_cases hempty : line.isEmpty = true
    · rw [upToEnd_cons_of_isEmpty hempty, upToEnd_cons_of_isEmpty (hline.isEmpty_eq ▸ hempty)]
    · have hfalse : line.isEmpty = false := Bool.eq_false_iff.mpr hempty
      rw [upToEnd_cons hfalse, upToEnd_cons (hline.isEmpty_eq.symm.trans hfalse),
        List.length_cons, List.length_cons, ih]

/-- Sources that look alike make readers with the same view, or meet the same fault. -/
theorem start_congr (hout : settings.outputEncoding = other.outputEncoding)
    (h : List.Forall₂ (RawLine.Alike settings other) lines twins) :
    (start settings lines).1.value.map view = (start other twins).1.value.map view := by
  have hentries := entriesFrom_congr hout h 0
  by_cases hfault : ∃ fault,
      ((entriesFrom settings 0 lines).head?.map Prod.snd) = some (.error fault)
  · obtain ⟨fault, hhead⟩ := hfault
    obtain ⟨⟨number, entry⟩, hfirst, hentry⟩ := Option.map_eq_some_iff.mp hhead
    obtain rfl : entry = .error fault := hentry
    obtain ⟨later, hlater⟩ := List.head?_eq_some_iff.mp hfirst
    rw [(start_of_fault hlater).1, (start_of_fault (hentries.symm.trans hlater)).1]
  · have hnone := not_exists.mp hfault
    obtain ⟨reader, hreader, -, hview⟩ := exists_start hnone
    obtain ⟨twin, htwin, -, htwinView⟩ := exists_start (hentries ▸ hnone)
    rw [hreader, htwin]
    refine congrArg Except.ok ?_
    rw [hview, htwinView, ← hentries, ← titleOf_congr h, ← length_upToEnd_congr h]

end Lines

/-! ### Calls -/

section Calls

variable {reader twin : Reader}

/-- A call is answered from what is in view. -/
theorem call_congr (h : reader.view = twin.view) (c : Call) :
    (reader.call c).1 = (twin.call c).1 ∧ (reader.call c).2.view = (twin.call c).2.view := by
  have hnext : reader.hasNext = twin.hasNext := congrArg (fun view ↦ view.next.isSome) h
  have htake :
      (reader.take.1.value, reader.take.2.view) = (twin.take.1.value, twin.take.2.view) := by
    rw [view_take, view_take, h]
  obtain ⟨hvalue, hview⟩ := Prod.mk.inj htake
  cases c with
  | look => exact ⟨congrArg Answer.flag hnext, h⟩
  | take => exact ⟨congrArg Answer.ofTaken hvalue, hview⟩
  | step =>
    rw [call, call, hnext, hvalue]
    cases twin.hasNext with
    | true => exact ⟨rfl, hview⟩
    | false => exact ⟨rfl, h⟩

theorem calls_congr (h : reader.view = twin.view) (cs : List Call) :
    (reader.calls cs).1 = (twin.calls cs).1 := by
  induction cs generalizing reader twin with
  | nil => rfl
  | cons c rest ih =>
    obtain ⟨hanswer, hview⟩ := call_congr h c
    rw [calls, calls, hanswer, ih hview]

end Calls

/-- A caller cannot tell sources that look alike from each other. -/
theorem transcript_congr {settings other : Settings} {lines twins : List RawLine}
    (hout : settings.outputEncoding = other.outputEncoding)
    (h : List.Forall₂ (RawLine.Alike settings other) lines twins) (cs : List Call) :
    transcript settings lines cs = transcript other twins cs := by
  have hstart := start_congr hout h
  unfold transcript
  generalize (start settings lines).1.value = reader at *
  generalize (start other twins).1.value = twin at *
  match reader, twin, hstart with
  | .error fault, .error same, hsame => exact congrArg Except.error (Except.error.inj hsame)
  | .ok reader, .ok twin, hsame =>
    have hview : reader.view = twin.view := Except.ok.inj hsame
    have htitle : reader.description = twin.description := congrArg View.description hview
    exact congrArg Except.ok (Prod.ext htitle (calls_congr hview cs))

end Reader

end TermKeys
