import TermKeys.Reader

/-!
Layouts: named sets of bindings. The bindings are kept in groups, one for each key, so that a
key press is looked up in the group of its key alone. A group comes into being with the first
binding of its key and goes with the last, and the groups stand in the order in which they
came.
-/

set_option autoImplicit false

namespace TermKeys

/-- The bindings of one key, in the order in which they were added. -/
structure Group where
  keyCode : Int
  bindings : List Binding
deriving DecidableEq, Repr

/-- A named set of bindings. -/
structure Layout where
  name : Text
  description : Text
  groups : List Group
deriving DecidableEq, Repr

namespace Layout

/-- A layout without bindings. -/
def empty (name description : Text) : Layout := ⟨name, description, []⟩

/-- The bindings of all groups. -/
def bindings (layout : Layout) : List Binding := layout.groups.flatMap Group.bindings

/-- The bindings of a key. -/
def bindingsFor (layout : Layout) (keyCode : Int) : List Binding :=
  (layout.groups.find? fun group ↦ group.keyCode = keyCode).elim [] Group.bindings

/-- Groups with one more binding, at the end of the group of its key. -/
def addTo (binding : Binding) : List Group → List Group
  | [] => [⟨binding.keyCode, [binding]⟩]
  | group :: rest =>
    if group.keyCode = binding.keyCode then
      { group with bindings := group.bindings ++ [binding] } :: rest
    else group :: addTo binding rest

/-- Groups without the first binding that equals the given one, and without its group if that
was the last binding there. -/
def removeFrom (binding : Binding) : List Group → List Group
  | [] => []
  | group :: rest =>
    if group.keyCode = binding.keyCode then
      match group.bindings.erase binding with
      | [] => rest
      | kept => { group with bindings := kept } :: rest
    else group :: removeFrom binding rest

/-- Adds a binding. -/
def add (layout : Layout) (binding : Binding) : Layout :=
  { layout with groups := addTo binding layout.groups }

theorem find?_addTo (binding : Binding) (groups : List Group) (keyCode : Int) :
    ((addTo binding groups).find? fun group ↦ group.keyCode = keyCode).elim [] Group.bindings =
      (groups.find? fun group ↦ group.keyCode = keyCode).elim [] Group.bindings
        ++ if binding.keyCode = keyCode then [binding] else [] := by
  induction groups with
  | nil => by_cases h : binding.keyCode = keyCode <;> simp [addTo, h]
  | cons group rest ih =>
    unfold addTo
    by_cases hg : group.keyCode = binding.keyCode
    · by_cases hk : binding.keyCode = keyCode <;> simp [hg, hk]
    · by_cases hk : group.keyCode = keyCode
      · have : binding.keyCode ≠ keyCode := fun h ↦ hg (hk.trans h.symm)
        simp [hk, this, Ne.symm this]
      · simp [hg, hk, ih]

/-- A binding is added at the end of those of its key, and those of other keys stay. -/
theorem bindingsFor_add (layout : Layout) (binding : Binding) (keyCode : Int) :
    (layout.add binding).bindingsFor keyCode =
      layout.bindingsFor keyCode ++ if binding.keyCode = keyCode then [binding] else [] :=
  find?_addTo binding layout.groups keyCode

/-- Removes the first binding that equals the given one, if there is one. -/
def remove (layout : Layout) (binding : Binding) : Layout :=
  { layout with groups := removeFrom binding layout.groups }

/-- Removes one binding and adds another. The binding that stands for none is not looked for. -/
def replace (layout : Layout) (old new : Binding) : Layout :=
  (if old.isNull then layout else layout.remove old).add new

/-- The first binding that answers a key press, or the one that stands for none. -/
def find (layout : Layout) (press : KeyPress) : Binding :=
  ((layout.bindingsFor press.keyCode).find? fun b ↦ b.toCondition.accepts press).getD
    Binding.null

/-- A layout with bindings added in order. -/
def addAll (layout : Layout) (bindings : List Binding) : Layout := bindings.foldl add layout

/-- Of the bindings added, a key has those with its code, in order, after those it had. -/
theorem bindingsFor_addAll (layout : Layout) (bindings : List Binding) (keyCode : Int) :
    (layout.addAll bindings).bindingsFor keyCode =
      layout.bindingsFor keyCode ++ bindings.filter fun b ↦ b.keyCode = keyCode := by
  unfold addAll
  induction bindings generalizing layout with
  | nil => simp
  | cons binding rest ih =>
    rw [List.foldl_cons, ih, bindingsFor_add, List.append_assoc]
    by_cases h : binding.keyCode = keyCode <;> simp [h]

/-- A layout in a few words: its name and the number of its bindings. -/
def summary (layout : Layout) : Text :=
  "<KeyboardTranslator ".toList ++ Text.quoted layout.name ++ " (".toList
    ++ Text.ofNat layout.bindings.length ++ " entries)>".toList

/-- The first line of a layout file. -/
def titleLine (description : Text) : Text :=
  "keyboard \"".toList ++ description ++ "\"\n".toList

/-- The line of a binding in a layout file. -/
def bindingLine (binding : Binding) (encoding : Text) : Except Fault Text :=
  (binding.line encoding).map (· ++ ['\n'])

/-- The layout of a layout file that has been read in lines, under the name of its file. -/
def ofLines (path : Path) (lines : List RawLine) (settings : Settings) : Outcome Layout :=
  let (opened, _) := Reader.start settings lines
  match opened.value with
  | .error fault => ⟨.error fault, opened.notes⟩
  | .ok reader =>
    let (taken, _) := reader.takeAll
    match taken.value with
    | .error fault => ⟨.error fault, opened.notes ++ taken.notes⟩
    | .ok bindings =>
      let layout := (empty path.stem reader.description).addAll bindings
      ⟨.ok layout, opened.notes ++ taken.notes ++ [.loaded layout.summary path]⟩

end Layout

end TermKeys
