import TermKeys.Proofs.Descriptor

/-!
A descriptor read character by character. The scan keeps the text of the item that is under way and
takes the item in at the first character behind it, or at the end of the descriptor if there is
none; that character tells the sign only afterwards, so an item goes by the sign before it. The
first character is kept whatever it is. In one pass this comes to what the items of the descriptor
give (`scan_eq_decode`).
-/

set_option autoImplicit false

namespace TermKeys.Descriptor

open Unicode

/-- A scan between two characters: the text of the item that is under way, whether the last sign was
a minus, and what the items in front of that one have given. -/
structure Scan where
  buffer : Text
  absent : Bool
  condition : Condition
  notes : List Diagnostic

namespace Scan

/-- A further character of the item that is under way. -/
def push (scan : Scan) (c : Char) : Scan := { scan with buffer := scan.buffer ++ [c] }

/-- The item that is under way is taken in, if it has any text. -/
def flush (scan : Scan) : Scan :=
  if scan.buffer.isEmpty then scan else
    { scan with
      buffer := []
      condition := apply scan.condition ⟨scan.buffer, scan.absent⟩
      notes := scan.notes ++ notesOf ⟨scan.buffer, scan.absent⟩ }

/-- The sign behind a character. -/
def sign (scan : Scan) (c : Char) : Scan := { scan with absent := signAfter scan.absent c }

/-- One more character, given whether it is the first and whether it is the last. -/
def step (scan : Scan) (isFirst isLast : Bool) (c : Char) : Scan :=
  let pushed := if isAlphanumeric c || isFirst then scan.push c else scan
  let flushed := if !isAlphanumeric c || isLast then pushed.flush else pushed
  flushed.sign c

/-- The characters of a text one after the other, given whether its first is that of the
descriptor. -/
def run (scan : Scan) (isFirst : Bool) : Text → Scan
  | [] => scan
  | c :: rest => (scan.step isFirst rest.isEmpty c).run false rest

/-- What a scan has given with a row of items behind it. -/
def taking (scan : Scan) (row : List Item) : Noted Condition :=
  ⟨row.foldl apply scan.condition, scan.notes ++ row.flatMap notesOf⟩

end Scan

/-- What a descriptor adds to a condition, character by character. -/
def scan (descriptor : Text) (initial : Condition) : Noted Condition :=
  (Scan.run ⟨[], false, initial, []⟩ true descriptor).taking []

/-- A row of items with one in front of it, if that has any text. -/
def opened (head : Text) (absent : Bool) (row : List Item) : List Item :=
  if head.isEmpty then row else ⟨head, absent⟩ :: row

@[simp] theorem opened_nil (absent : Bool) (row : List Item) : opened [] absent row = row := rfl

/-- The first character begins the first item if it is a letter or a number, and is one on its own
if it is not. -/
theorem items_cons (c : Char) (rest : Text) :
    items (c :: rest) =
      opened (if isAlphanumeric c then (headAndItems false (c :: rest)).1 else [c]) false
        (headAndItems false (c :: rest)).2 := by
  cases hc : isAlphanumeric c with
  | true =>
    rw [items, headAndItems, if_pos hc]
    rfl
  | false =>
    rw [items, headAndItems_sign hc]
    rfl

namespace Scan

variable {scan : Scan} {c : Char}

@[simp] theorem push_buffer : (scan.push c).buffer = scan.buffer ++ [c] := rfl

@[simp] theorem push_absent : (scan.push c).absent = scan.absent := rfl

@[simp] theorem push_taking (row : List Item) : (scan.push c).taking row = scan.taking row := rfl

@[simp] theorem sign_buffer : (scan.sign c).buffer = scan.buffer := rfl

@[simp] theorem sign_absent : (scan.sign c).absent = signAfter scan.absent c := rfl

@[simp] theorem sign_taking (row : List Item) : (scan.sign c).taking row = scan.taking row := rfl

theorem sign_of_isAlphanumeric (h : isAlphanumeric c = true) : scan.sign c = scan := by
  rw [sign, signAfter_of_isAlphanumeric h]

@[simp] theorem flush_buffer : scan.flush.buffer = [] := by
  unfold flush
  split_ifs with hempty
  · exact List.isEmpty_iff.mp hempty
  · rfl

@[simp] theorem flush_absent : scan.flush.absent = scan.absent := by
  unfold flush
  split_ifs <;> rfl

theorem flush_taking (row : List Item) :
    scan.flush.taking row = scan.taking (opened scan.buffer scan.absent row) := by
  unfold flush opened
  split_ifs with hempty
  · rfl
  · simp [taking]

/-- A letter or number is kept, and ends the item just if it is the last character. -/
theorem step_of_isAlphanumeric (h : isAlphanumeric c = true) (isFirst isLast : Bool) :
    scan.step isFirst isLast c = if isLast then (scan.push c).flush else scan.push c := by
  simp [step, h, sign_of_isAlphanumeric h]

/-- Any other character ends the item, and tells the sign behind it. -/
theorem step_of_not_isAlphanumeric (h : isAlphanumeric c = false) (isFirst isLast : Bool) :
    scan.step isFirst isLast c = ((if isFirst then scan.push c else scan).flush).sign c := by
  simp [step, h]

/-- What a scan gives of the rest of a descriptor: the item that is under way goes on with the
letters and numbers in front, and the items behind them follow. No item is under way at the end. -/
theorem run_taking (scan : Scan) {rest : Text} (h : rest = [] → scan.buffer = []) :
    (scan.run false rest).taking [] =
      scan.taking (opened (scan.buffer ++ (headAndItems scan.absent rest).1) scan.absent
        (headAndItems scan.absent rest).2) := by
  induction rest generalizing scan with
  | nil => simp [run, h rfl, headAndItems, opened]
  | cons c rest ih =>
    cases hc : isAlphanumeric c with
    | true =>
      rw [run, step_of_isAlphanumeric hc, headAndItems, if_pos hc]
      cases rest with
      | nil => exact flush_taking []
      | cons d more =>
        have hmore := ih (scan.push c) fun hnil ↦ absurd hnil (List.cons_ne_nil d more)
        simpa using hmore
    | false =>
      have hrest := ih (scan.flush.sign c) fun _ ↦ flush_buffer
      rw [run, step_of_not_isAlphanumeric hc, headAndItems_sign hc, ← opened]
      simpa [flush_taking] using hrest

end Scan

/-- A descriptor read character by character gives what its items give. -/
theorem scan_eq_decode (descriptor : Text) (initial : Condition) :
    scan descriptor initial = decode descriptor initial := by
  cases descriptor with
  | nil => rfl
  | cons c rest =>
    have hdecode : decode (c :: rest) initial =
        (⟨[], false, initial, []⟩ : Scan).taking (items (c :: rest)) := rfl
    rw [hdecode, items_cons, scan]
    generalize hstart : (⟨[], false, initial, []⟩ : Scan) = start
    cases hc : isAlphanumeric c with
    | true =>
      have hfirst : start.run true (c :: rest) = start.run false (c :: rest) := by
        simp only [Scan.run, Scan.step_of_isAlphanumeric hc]
      rw [hfirst, Scan.run_taking start fun h ↦ absurd h (List.cons_ne_nil c rest), ← hstart]
      rfl
    | false =>
      have hrest := Scan.run_taking ((start.push c).flush.sign c) fun _ : rest = [] ↦
        Scan.flush_buffer
      rw [Scan.run, Scan.step_of_not_isAlphanumeric hc, headAndItems_sign hc, ← opened]
      simpa [Scan.flush_taking, ← hstart] using hrest

end TermKeys.Descriptor
