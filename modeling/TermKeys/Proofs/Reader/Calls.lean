import TermKeys.Proofs.Reader.Utf8

/-!
Runs of calls on a reader. A caller may look whether a binding is left, take the next one, or step
on as a loop does, in any order. The reader then answers as the plain list of its bindings would
(`Call.onList`), and its own state shows how many of them have been taken (`calls_of_view`). From
the lines of a source in UTF-8 this is `exists_start_calls`.
-/

set_option autoImplicit false

namespace TermKeys.Reader

/-! ### Calls and answers -/

/-- What a caller may ask of a reader. -/
inductive Call
  /-- Whether a binding is left. -/
  | look
  /-- The next binding, and a fault if there is none. -/
  | take
  /-- The next binding, and a stop if there is none. -/
  | step
deriving DecidableEq, Repr

/-- What a reader answers. -/
inductive Answer
  | flag (left : Bool)
  | binding (binding : Binding)
  | fault (fault : Fault)
  | stop
deriving DecidableEq, Repr

/-- The binding that an answer hands out. -/
def Answer.binding? : Answer → Option Binding
  | binding b => some b
  | flag _ | fault _ | stop => none

/-- The answer to taking a binding. -/
def Answer.ofTaken : Except Fault Binding → Answer
  | .ok b => binding b
  | .error f => fault f

/-- Whether a call takes a binding if there is one. -/
def Call.pulls (call : Call) : Bool := call ≠ look

/-- The answer of a reader to a call, and the reader after it. -/
def call (reader : Reader) : Call → Answer × Reader
  | .look => (.flag reader.hasNext, reader)
  | .take => (.ofTaken reader.take.1.value, reader.take.2)
  | .step =>
    if reader.hasNext then (.ofTaken reader.take.1.value, reader.take.2) else (.stop, reader)

/-- The answers of a reader to some calls, and the reader after them. -/
def calls (reader : Reader) : List Call → List Answer × Reader
  | [] => ([], reader)
  | c :: rest =>
    (((reader.call c).1) :: ((reader.call c).2.calls rest).1, ((reader.call c).2.calls rest).2)

/-- The answer of a list of bindings to a call, and the bindings that are left after it. -/
def Call.onList : Call → List Binding → Answer × List Binding
  | look, bindings => (.flag (!bindings.isEmpty), bindings)
  | take, [] => (.fault .exhausted, [])
  | step, [] => (.stop, [])
  | take, first :: later | step, first :: later => (.binding first, later)

/-- The answers of a list of bindings to some calls. -/
def answersOf : List Binding → List Call → List Answer
  | _, [] => []
  | bindings, c :: rest => (c.onList bindings).1 :: answersOf (c.onList bindings).2 rest

theorem onList_snd (c : Call) (bindings : List Binding) :
    (c.onList bindings).2 = bindings.drop c.pulls.toNat := by
  cases c <;> cases bindings <;> rfl

/-- The bindings handed out are the first ones of the list, one for each call that takes one. -/
theorem filterMap_answersOf (bindings : List Binding) (cs : List Call) :
    (answersOf bindings cs).filterMap Answer.binding? = bindings.take (cs.countP Call.pulls) := by
  induction cs generalizing bindings with
  | nil => rfl
  | cons c rest ih =>
    rw [answersOf, List.countP_cons]
    cases c with
    | look => exact ih bindings
    | take | step =>
      cases bindings with
      | nil => exact (ih []).trans List.take_nil
      | cons first later => exact congrArg (first :: ·) (ih later)

/-! ### A reader of bindings -/

variable {description : Text} {total : Nat}

/-- One call on a reader with some bindings in front of it. -/
theorem call_of_view {reader : Reader} {numbered : List (Nat × Binding)}
    (hview : reader.view = View.ofBindings description total numbered) (c : Call) :
    (reader.call c).1 = (c.onList (numbered.map Prod.snd)).1 ∧
      (reader.call c).2.view =
        View.ofBindings description total (numbered.drop c.pulls.toNat) := by
  have hnext : reader.next = numbered.head?.map Prod.snd := congrArg View.next hview
  have htake := view_take reader
  rw [hview] at htake
  cases numbered with
  | nil =>
    have hnone : reader.next = none := hnext
    cases c with
    | look => exact ⟨by simp [call, hasNext, hnone, Call.onList], hview⟩
    | take =>
      obtain ⟨hvalue, hafter⟩ := Prod.mk.injEq .. ▸ htake
      exact ⟨congrArg Answer.ofTaken hvalue, hafter⟩
    | step => simp [call, hasNext, hnone, Call.onList, hview]
  | cons first later =>
    have hsome : reader.next = some first.2 := hnext
    rw [View.take_ofBindings_cons, Prod.mk.injEq] at htake
    obtain ⟨hvalue, hafter⟩ := htake
    cases c with
    | look => exact ⟨by simp [call, hasNext, hsome, Call.onList], hview⟩
    | take => exact ⟨congrArg Answer.ofTaken hvalue, hafter⟩
    | step =>
      rw [call, hasNext, hsome, Option.isSome_some, if_pos rfl]
      exact ⟨congrArg Answer.ofTaken hvalue, hafter⟩

/-- Any calls on a reader with some bindings in front of it. -/
theorem calls_of_view {reader : Reader} {numbered : List (Nat × Binding)}
    (hview : reader.view = View.ofBindings description total numbered) (cs : List Call) :
    (reader.calls cs).1 = answersOf (numbered.map Prod.snd) cs ∧
      (reader.calls cs).2.view =
        View.ofBindings description total (numbered.drop (cs.countP Call.pulls)) := by
  induction cs generalizing reader numbered with
  | nil => exact ⟨rfl, hview⟩
  | cons c rest ih =>
    obtain ⟨hanswer, hafter⟩ := call_of_view hview c
    obtain ⟨hanswers, hlast⟩ := ih hafter
    rw [calls, answersOf, hanswer, hanswers, onList_snd, List.map_drop]
    refine ⟨rfl, hlast.trans ?_⟩
    rw [List.drop_drop, List.countP_cons]
    cases c <;> simp [Call.pulls, Nat.add_comm]

/-- Calls on an exhausted reader leave it as it is. -/
theorem call_of_next_eq_none {reader : Reader} (h : reader.next = none) :
    reader.call .look = (.flag false, reader) ∧
      reader.call .take = (.fault .exhausted, reader) ∧ reader.call .step = (.stop, reader) := by
  refine ⟨?_, ?_, ?_⟩
  · rw [call, hasNext, h]
    rfl
  · rw [call, take, h]
    rfl
  · rw [call, hasNext, h]
    rfl

theorem calls_of_next_eq_none {reader : Reader} (h : reader.next = none) (cs : List Call) :
    (reader.calls cs).2 = reader := by
  obtain ⟨hlook, htake, hstep⟩ := call_of_next_eq_none h
  induction cs with
  | nil => rfl
  | cons c rest ih => cases c <;> simp only [calls, hlook, htake, hstep, ih]

/-! ### From the lines of a source -/

theorem utf8Text_upToEnd_text (lines : List Text) :
    (RawLine.upToEnd (lines.map .text)).map RawLine.utf8Text =
      lines.takeWhile fun line ↦ !line.isEmpty := by
  rw [RawLine.upToEnd, List.takeWhile_map, List.map_map]
  exact List.map_id _

theorem filterMap_entryOf? {settings : Settings} (h : settings.Utf8) (lines : List Text) :
    lines.filterMap (fun line ↦ entryOf? settings (.text line)) = (bindingsOf lines).map .ok := by
  rw [bindingsOf, List.map_filterMap]
  exact List.filterMap_congr fun line _ ↦ entryOf?_utf8 h (.text line)

/-- A new reader of texts, the first empty one being their end, answers any calls as the list of
the bindings of their key lines would. After `taken` of these have been taken, it has asked for
lines up to the next key line, or for all of them and once more. At the end it stays as it is. -/
theorem exists_start_calls {settings : Settings} (h : settings.Utf8) (lines : List Text) :
    let read := lines.takeWhile fun line ↦ !line.isEmpty
    let bindings := bindingsOf read
    read.filterMap (fun line ↦ entryOf? settings (.text line)) = bindings.map .ok ∧
      ∃ reader, (start settings (lines.map .text)).1.value = .ok reader ∧
        ∀ cs : List Call,
          let taken := min (cs.countP Call.pulls) bindings.length
          let after := (reader.calls cs).2
          (reader.calls cs).1 = answersOf bindings cs ∧
            (reader.calls cs).1.filterMap Answer.binding? = bindings.take taken ∧
            after.description = descriptionOf read ∧
            after.hasNext = decide (taken < bindings.length) ∧
            after.source.asked = (keyNumbers read)[taken]?.getD (read.length + 1) ∧
            (taken = bindings.length →
              after.call .take = (.fault .exhausted, after) ∧
                after.call .step = (.stop, after) ∧
                ∀ more : List Call, (after.calls more).2 = after) := by
  intro read bindings
  refine ⟨filterMap_entryOf? h read, ?_⟩
  obtain ⟨reader, hstart, hview⟩ := exists_start_utf8 h (lines.map .text)
  have hlength : (RawLine.upToEnd (lines.map .text)).length = read.length :=
    (List.length_map RawLine.utf8Text).symm.trans (congrArg _ (utf8Text_upToEnd_text lines))
  rw [utf8Text_upToEnd_text, hlength] at hview
  refine ⟨reader, hstart, fun cs ↦ ?_⟩
  intro taken after
  have hnumbers : (keyNumbers read).length = bindings.length := length_findIdxs_isKey read 1
  generalize hnumbered : (keyNumbers read).zip bindings = numbered at hview
  have hfst : numbered.map Prod.fst = keyNumbers read := by
    rw [← hnumbered, List.map_fst_zip (Nat.le_of_eq hnumbers)]
  have hsnd : numbered.map Prod.snd = bindings := by
    rw [← hnumbered, List.map_snd_zip (Nat.le_of_eq hnumbers.symm)]
  obtain ⟨hanswers, hafter⟩ := calls_of_view hview cs
  -- Calls past the end take nothing more, so they need not be counted.
  have hdrop : numbered.drop (cs.countP Call.pulls) = numbered.drop taken := by
    rw [List.drop_eq_drop_iff, ← List.length_map Prod.snd, hsnd, Nat.min_assoc, Nat.min_self]
  rw [hsnd] at hanswers
  rw [hdrop] at hafter
  have hnext : after.next = bindings[taken]? := by
    rw [← hsnd, List.getElem?_map, ← List.head?_drop]
    exact congrArg View.next hafter
  refine ⟨hanswers, ?_, congrArg View.description hafter, ?_, ?_, fun hend ↦ ?_⟩
  · rw [hanswers, filterMap_answersOf, List.take_eq_take_min]
  · rw [hasNext, hnext, Bool.eq_iff_iff, Option.isSome_iff_ne_none, Ne, List.getElem?_eq_none_iff,
      Nat.not_le, decide_eq_true_iff]
  · rw [← hfst, List.getElem?_map, ← List.head?_drop]
    exact congrArg View.asked hafter
  · have hnone : after.next = none := hnext.trans (List.getElem?_eq_none (Nat.le_of_eq hend.symm))
    obtain ⟨-, htake, hstep⟩ := call_of_next_eq_none hnone
    exact ⟨htake, hstep, calls_of_next_eq_none hnone⟩

/-- A source with lines of every kind, its end seen too often. -/
theorem exists_start_calls_trial :
    ∃ reader,
      (start Settings.trial ([" # keys", "keyboard \"Own\"", "key A : \"a\"", "keyboard \"x\"",
        "junk", "key Up+Ansi : scrollLineUp", "", "key B : \"b\""].map
          fun s ↦ .text s.toList)).1.value =
          .ok reader ∧
        (reader.calls [.look, .take, .look, .step, .take]).1.filterMap Answer.binding? =
          [{ keyCode := 0x41, command := .none, text := [0x61] },
           { keyCode := 0x1000013, modes := 2, modeMask := 2, command := .scrollLineUp,
             text := [] }] ∧
        (reader.calls [.look, .take]).2.source.asked = 6 ∧
        (reader.calls [.look, .take, .look, .step, .take]).2.source.asked = 7 := by
  obtain ⟨-, reader, hstart, hcalls⟩ :=
    @exists_start_calls Settings.trial ⟨rfl, rfl⟩
      ([" # keys", "keyboard \"Own\"", "key A : \"a\"", "keyboard \"x\"", "junk",
        "key Up+Ansi : scrollLineUp", "", "key B : \"b\""].map String.toList)
  rw [List.map_map] at hstart
  refine ⟨reader, hstart, ?_, ?_, ?_⟩
  · rw [(hcalls _).2.1]
    decide +kernel
  · rw [(hcalls _).2.2.2.2.1]
    decide +kernel
  · rw [(hcalls _).2.2.2.2.1]
    decide +kernel

end TermKeys.Reader
