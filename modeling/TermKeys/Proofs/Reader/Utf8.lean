import Mathlib.Data.List.Basic
import Mathlib.Tactic.SplitIfs
import TermKeys.Proofs.Encoding.Utf8
import TermKeys.Proofs.Reader.Whole

/-!
Reading in UTF-8, where no line and no text stands in the way. The entries of some lines are then
the bindings of their key lines, each numbered by its line (`entriesFrom_utf8`), and a reader hands
out all of them (`exists_readAll`).
-/

set_option autoImplicit false

namespace TermKeys

/-- Settings with UTF-8 for lines and for output. -/
structure Settings.Utf8 (settings : Settings) : Prop where
  input : settings.inputEncoding = "utf-8".toList
  output : settings.outputEncoding = "utf-8".toList

theorem Settings.utf8_usual (homes : Homes) : (Settings.usual homes).Utf8 := ⟨rfl, rfl⟩

/-- The text of a line read in UTF-8. -/
def RawLine.utf8Text : RawLine → Text
  | text line => line
  | bytes line => Encoding.utf8.decode line

/-- Whether a line is a key line, as its first token tells. -/
def Line.isKey (line : Line) : Bool := line.tokens.head?.map Token.kind = some .keyKeyword

namespace Reader

/-! ### Lines as texts -/

/-- The binding of a key line whose text is written in UTF-8. -/
def bindingFor (descriptor : Text) (action : Action) : Binding :=
  { toCondition := (Descriptor.decode (Unicode.lower descriptor) {}).value
    command :=
      match action with
      | .send _ => .none
      | .command word => (Command.named? word).getD .none
    text :=
      match action with
      | .send text => Utf8.encode text
      | .command _ => [] }

/-- The binding of a text that is a key line. -/
def bindingOf? (line : Text) : Option Binding :=
  match Line.read line with
  | .key descriptor action => some (bindingFor descriptor action)
  | _ => none

/-- The bindings of the key lines among some texts. -/
def bindingsOf (lines : List Text) : List Binding := lines.filterMap bindingOf?

/-- The numbers of the key lines among some texts, counted from one. -/
def keyNumbers (lines : List Text) : List Nat :=
  lines.findIdxs (fun line ↦ (Line.read line).isKey) 1

/-- The title of some texts: that of the first one with any tokens, if that is a title. -/
def descriptionOf (lines : List Text) : Text :=
  match (lines.map Line.read).find? fun line ↦ line.tokens ≠ [] with
  | some (.title title) => title
  | _ => []

variable {settings : Settings}

theorem encodeAs_utf8 (text : Text) :
    Encoding.encodeAs "utf-8".toList text = .ok (Utf8.encode text) :=
  rfl

theorem decodeAs_utf8 (bytes : Bytes) :
    Encoding.decodeAs "utf-8".toList bytes = .ok (Encoding.utf8.decode bytes) := by
  cases bytes <;> rfl

theorem decode_utf8 (h : settings.Utf8) (line : RawLine) :
    line.decode settings.inputEncoding = .ok line.utf8Text := by
  cases line with
  | text line => rfl
  | bytes line => rw [RawLine.decode, h.input, decodeAs_utf8, RawLine.utf8Text]

/-- A key line is read as in UTF-8 if the text that it sends is written so. -/
theorem value_bindingOf_of_encodeAs {action : Action}
    (h : ∀ text, action = .send text →
      Encoding.encodeAs settings.outputEncoding text = .ok (Utf8.encode text))
    (descriptor : Text) :
    (bindingOf settings descriptor action).value = .ok (bindingFor descriptor action) := by
  cases action with
  | send text =>
    simp only [bindingOf, Noted.bind, h text rfl]
    rfl
  | command word =>
    simp only [bindingOf, Noted.bind, commandOf, bindingFor]
    cases Command.named? word <;> rfl

theorem value_bindingOf (h : settings.Utf8) (descriptor : Text) (action : Action) :
    (bindingOf settings descriptor action).value = .ok (bindingFor descriptor action) :=
  value_bindingOf_of_encodeAs (fun text _ ↦ by rw [h.output, encodeAs_utf8]) descriptor

theorem entryOf?_of_decode {raw : RawLine} {line : Text}
    (hraw : raw.decode settings.inputEncoding = .ok line)
    (h : ∀ descriptor action, Line.read line = .key descriptor action →
      (bindingOf settings descriptor action).value = .ok (bindingFor descriptor action)) :
    entryOf? settings raw = (bindingOf? line).map .ok := by
  rw [entryOf?, hraw, bindingOf?]
  dsimp only
  cases hread : Line.read line with
  | key descriptor action => exact congrArg some (h descriptor action hread)
  | nothing | title _ | unreadable _ => rfl

theorem entryOf?_utf8 (h : settings.Utf8) (line : RawLine) :
    entryOf? settings line = (bindingOf? line.utf8Text).map .ok :=
  entryOf?_of_decode (decode_utf8 h line) fun descriptor action _ ↦
    value_bindingOf h descriptor action

theorem isKey_eq_isSome (line : Text) : (Line.read line).isKey = (bindingOf? line).isSome := by
  rw [bindingOf?]
  cases Line.read line <;> rfl

/-! ### The entries of some lines -/

theorem length_findIdxs_isKey (lines : List Text) (start : Nat) :
    (lines.findIdxs (fun line ↦ (Line.read line).isKey) start).length =
      (bindingsOf lines).length := by
  induction lines generalizing start with
  | nil => rfl
  | cons line rest ih =>
    rw [List.findIdxs_cons, bindingsOf, List.filterMap_cons, isKey_eq_isSome, ← bindingsOf]
    cases bindingOf? line with
    | none => exact ih (start + 1)
    | some binding => exact congrArg Nat.succ (ih (start + 1))

theorem entriesFrom_utf8 (h : settings.Utf8) (lines : List RawLine) (asked : Nat) :
    entriesFrom settings asked lines =
      ((((RawLine.upToEnd lines).map RawLine.utf8Text).findIdxs
          (fun line ↦ (Line.read line).isKey) (asked + 1)).zip
        (bindingsOf ((RawLine.upToEnd lines).map RawLine.utf8Text))).map
          fun entry ↦ (entry.1, .ok entry.2) := by
  induction lines generalizing asked with
  | nil => rfl
  | cons line rest ih =>
    rw [entriesFrom]
    cases hempty : line.isEmpty with
    | true =>
      rw [upToEnd_cons_of_isEmpty hempty]
      rfl
    | false =>
      rw [if_neg Bool.false_ne_true, upToEnd_cons hempty, List.map_cons, List.findIdxs_cons,
        bindingsOf, List.filterMap_cons, isKey_eq_isSome, entryOf?_utf8 h, ← bindingsOf]
      cases bindingOf? line.utf8Text with
      | none => exact ih (asked + 1)
      | some binding => exact congrArg ((asked + 1, .ok binding) :: ·) (ih (asked + 1))

theorem titleOf_utf8 (h : settings.Utf8) (lines : List RawLine) :
    titleOf settings lines =
      descriptionOf ((RawLine.upToEnd lines).map RawLine.utf8Text) := by
  induction lines with
  | nil => rfl
  | cons line rest ih =>
    rw [titleOf]
    cases hempty : line.isEmpty with
    | true =>
      rw [upToEnd_cons_of_isEmpty hempty]
      rfl
    | false =>
      rw [if_neg Bool.false_ne_true, decode_utf8 h, upToEnd_cons hempty, List.map_cons,
        descriptionOf, List.map_cons]
      dsimp only
      cases hread : Line.read line.utf8Text with
      | key descriptor action => simp [Line.tokens]
      | title title => simp [Line.tokens]
      | nothing | unreadable _ =>
        rw [List.find?_cons_of_neg (by simp [Line.tokens]), ← descriptionOf]
        exact ih

/-! ### A reader of the entries -/

/-- The view of a reader in front of some numbered bindings, with nothing in their way. -/
def View.ofBindings (description : Text) (total : Nat) (numbered : List (Nat × Binding)) :
    View where
  description := description
  next := numbered.head?.map Prod.snd
  pending := numbered.tail.map fun entry ↦ (entry.1, .ok entry.2)
  asked := (numbered.head?.map Prod.fst).getD total
  total := total

theorem exists_start_utf8 (h : settings.Utf8) (lines : List RawLine) :
    ∃ reader, (start settings lines).1.value = .ok reader ∧
      reader.view =
        View.ofBindings (descriptionOf ((RawLine.upToEnd lines).map RawLine.utf8Text))
          ((RawLine.upToEnd lines).length + 1)
          ((keyNumbers ((RawLine.upToEnd lines).map RawLine.utf8Text)).zip
            (bindingsOf ((RawLine.upToEnd lines).map RawLine.utf8Text))) := by
  have hentries := entriesFrom_utf8 h lines 0
  rw [Nat.zero_add, ← keyNumbers] at hentries
  generalize hnumbered : (keyNumbers ((RawLine.upToEnd lines).map RawLine.utf8Text)).zip
    (bindingsOf ((RawLine.upToEnd lines).map RawLine.utf8Text)) = numbered at *
  obtain ⟨reader, hstart, -, hview⟩ := @exists_start settings lines
    fun fault hfault ↦ by
      rw [hentries] at hfault
      cases numbered <;> simp at hfault
  refine ⟨reader, hstart, ?_⟩
  rw [hview, hentries, titleOf_utf8 h, View.ofBindings]
  cases numbered <;> simp [Except.toOption]

/-- Taking from a view of bindings gives the first of them. -/
theorem View.take_ofBindings_cons (description : Text) (total : Nat) (first : Nat × Binding)
    (later : List (Nat × Binding)) :
    (View.ofBindings description total (first :: later)).take =
      (.ok first.2, View.ofBindings description total later) := by
  cases later <;> rfl

/-- What lines hold in UTF-8 are the bindings of the key lines among them. -/
theorem filterMap_entryOf?_utf8 (h : settings.Utf8) (lines : List RawLine) :
    lines.filterMap (entryOf? settings) =
      (bindingsOf (lines.map RawLine.utf8Text)).map .ok := by
  rw [bindingsOf, List.map_filterMap, List.filterMap_map]
  exact List.filterMap_congr fun line _ ↦ entryOf?_utf8 h line

/-- A new reader gives the title of its lines and the bindings of all of them. -/
theorem exists_readAll (h : settings.Utf8) (lines : List RawLine) :
    ∃ reader, (start settings lines).1.value = .ok reader ∧
      reader.description = descriptionOf ((RawLine.upToEnd lines).map RawLine.utf8Text) ∧
      reader.takeAll.1.value =
        .ok (bindingsOf ((RawLine.upToEnd lines).map RawLine.utf8Text)) := by
  obtain ⟨reader, hstart, -⟩ := exists_start_utf8 h lines
  obtain ⟨hdescription, hall⟩ := takeAll_of_start hstart
  refine ⟨reader, hstart, hdescription.trans (titleOf_utf8 h lines), ?_⟩
  rw [hall, filterMap_entryOf?_utf8 h, allBindings_map_ok]

theorem upToEnd_eq_self {lines : List RawLine} (h : ∀ line ∈ lines, line.isEmpty = false) :
    RawLine.upToEnd lines = lines := by
  induction lines with
  | nil => rfl
  | cons line rest ih =>
    rw [upToEnd_cons (h line List.mem_cons_self),
      ih fun other hother ↦ h other (List.mem_cons_of_mem _ hother)]

/-- No line of a byte string is empty, so all of them are read. -/
theorem upToEnd_ofBytes (content : Bytes) :
    RawLine.upToEnd (RawLine.ofBytes content) = RawLine.ofBytes content := by
  refine upToEnd_eq_self fun raw hraw ↦ ?_
  obtain ⟨line, hline, rfl⟩ := List.mem_map.mp hraw
  exact List.isEmpty_eq_false_iff.mpr (Text.ne_nil_of_mem_linesBy hline)

/-- The lines of a document in UTF-8 are read to their end. -/
theorem utf8Text_upToEnd_ofBytes (document : Text) :
    (RawLine.upToEnd (RawLine.ofBytes (Utf8.encode document))).map RawLine.utf8Text =
      Text.linesBy '\n' document := by
  rw [upToEnd_ofBytes, RawLine.ofBytes, linesBy_encode, List.map_map, List.map_map]
  exact (List.map_congr_left fun line _ ↦ decode_encode line).trans (List.map_id _)

/-- The lines of a text are read to their end. -/
theorem utf8Text_upToEnd_ofText (document : Text) :
    (RawLine.upToEnd (RawLine.ofText document)).map RawLine.utf8Text =
      Text.linesBy '\n' document := by
  rw [RawLine.ofText, upToEnd_eq_self, List.map_map]
  · exact List.map_id _
  · intro raw hraw
    obtain ⟨line, hline, rfl⟩ := List.mem_map.mp hraw
    exact List.isEmpty_eq_false_iff.mpr (Text.ne_nil_of_mem_linesBy hline)

/-- The binding of a condition and a result is the first one of their document. -/
theorem value_ofParts (h : settings.Utf8) (condition result : Text) :
    (Binding.ofParts condition result settings).value =
      .ok ((bindingsOf (Text.linesBy '\n' (Binding.document condition result))).headD
        Binding.null) := by
  obtain ⟨reader, hstart, hview⟩ :=
    exists_start_utf8 h (RawLine.ofText (Binding.document condition result))
  rw [utf8Text_upToEnd_ofText] at hview
  generalize Text.linesBy '\n' (Binding.document condition result) = lines at *
  have hlength : (keyNumbers lines).length = (bindingsOf lines).length :=
    length_findIdxs_isKey lines 1
  have hvalue : (Binding.ofParts condition result settings).value =
      if reader.hasNext then reader.take.1.value else .ok Binding.null := by
    unfold Binding.ofParts
    simp only [hstart]
    split_ifs <;> rfl
  have hnext : reader.next = ((keyNumbers lines).zip (bindingsOf lines)).head?.map Prod.snd :=
    congrArg View.next hview
  have htake := congrArg Prod.fst (view_take reader)
  rw [hvalue, hasNext, hnext]
  rw [hview] at htake
  cases hnumbers : keyNumbers lines with
  | nil =>
    rw [hnumbers] at hlength
    rw [List.eq_nil_of_length_eq_zero hlength.symm]
    rfl
  | cons number numbers =>
    cases hbindings : bindingsOf lines with
    | nil => simp [hnumbers, hbindings] at hlength
    | cons first others =>
      rw [hnumbers, hbindings, List.zip_cons_cons, View.take_ofBindings_cons] at htake
      exact htake

end Reader

end TermKeys
