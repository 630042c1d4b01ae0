import TermKeys.Proofs.Layout.Changes
import TermKeys.Proofs.Layout.Loading

/-!
Looking up key presses. A layout looks into the group of the key that is pressed alone, and finds
what a walk through all its bindings would find. After loading it finds what a walk through the
lines of the file would find, although the groups put the bindings of the file into another order:
both orders agree on the bindings of each key, and only these answer a press of it
(`find_of_bindingsFor`). Both are in `find_eq_firstFor`.
-/

set_option autoImplicit false

namespace TermKeys.Layout

/-- The first of some bindings that answers a key press, or the one that stands for none. -/
def firstFor (bindings : List Binding) (press : KeyPress) : Binding :=
  (bindings.find? fun b ↦ b.toCondition.accepts press).getD Binding.null

/-- Only bindings of the key that is pressed answer. -/
theorem keyCode_eq_of_accepts {binding : Binding} {press : KeyPress}
    (h : binding.toCondition.accepts press = true) : binding.keyCode = press.keyCode := by
  simp only [Condition.accepts, Bool.and_eq_true, decide_eq_true_eq] at h
  exact h.1.1.1

theorem firstFor_ofKey (bindings : List Binding) (press : KeyPress) :
    firstFor (ofKey press.keyCode bindings) press = firstFor bindings press := by
  unfold firstFor ofKey
  rw [List.find?_filter]
  congr 2
  funext b
  cases haccepts : b.toCondition.accepts press with
  | false => simp
  | true => simp [keyCode_eq_of_accepts haccepts]

/-- A layout that has the bindings of the key that is pressed from some others finds the first of
these that answers. -/
theorem find_of_bindingsFor {layout : Layout} {bindings : List Binding} {press : KeyPress}
    (h : layout.bindingsFor press.keyCode = ofKey press.keyCode bindings) :
    layout.find press = firstFor bindings press := by
  rw [find, h, ← firstFor, firstFor_ofKey]

/-- The group of a key has all its bindings. -/
theorem bindingsFor_eq_ofKey {layout : Layout} (h : IsGrouped layout.groups) (keyCode : Int) :
    layout.bindingsFor keyCode = ofKey keyCode layout.bindings := by
  unfold bindingsFor bindings
  induction hgroups : layout.groups generalizing layout with
  | nil => rfl
  | cons group rest ih =>
    rw [hgroups] at h
    rw [ofKey_flatMap_cons h, List.find?_cons]
    split_ifs with hkey
    · rw [decide_eq_true hkey]
      rfl
    · rw [decide_eq_false hkey]
      have hrest : IsGrouped ({ layout with groups := rest } : Layout).groups := h.tail
      exact ih hrest rfl

/-- A layout that has just been loaded finds the first binding of its file that answers. -/
theorem find_addAll (name description : Text) (bindings : List Binding) (press : KeyPress) :
    ((empty name description).addAll bindings).find press = firstFor bindings press :=
  find_of_bindingsFor (bindingsFor_addAll _ bindings press.keyCode)

/-- Whatever changes a layout has gone through, it finds the first of all its bindings that answers
a key press. After loading it finds the first one in the order of the lines of the file, in any
encodings; loading fails only at a line that has a fault, and never in UTF-8. -/
theorem find_eq_firstFor :
    (∀ (name description : Text) (cs : List Change) (press : KeyPress),
      let layout := (empty name description).changes cs
      layout.find press = firstFor layout.bindings press) ∧
    ∀ (tree : FileTree) (path : Path) (settings : Settings) (content : Bytes),
      tree.read path = .ok content →
        let entries := (RawLine.ofBytes content).filterMap (Reader.entryOf? settings)
        (∃ layout bindings, (load tree path settings).value = .ok layout ∧
            entries = bindings.map .ok ∧ ∀ press, layout.find press = firstFor bindings press) ∨
          ∃ fault, (load tree path settings).value = .error fault ∧ .error fault ∈ entries ∧
            ¬ settings.Utf8 := by
  refine ⟨fun name description cs press ↦ ?_, fun tree path settings content hread ↦ ?_⟩
  · exact find_of_bindingsFor
      (bindingsFor_eq_ofKey (isGrouped_changes isGrouped_nil cs) press.keyCode)
  · intro entries
    have hload : (load tree path settings).value = (Reader.allBindings entries).map
        (empty path.stem (Reader.titleOf settings (RawLine.ofBytes content))).addAll := by
      rw [load, hread]
      dsimp only
      rw [value_ofLines, Reader.upToEnd_ofBytes]
    rcases Reader.allBindings_cases entries with ⟨bindings, hall, heq⟩ | ⟨fault, hall, hmem⟩
    · rw [hall] at hload
      exact Or.inl ⟨_, bindings, hload, heq, find_addAll _ _ bindings⟩
    · rw [hall] at hload
      refine Or.inr ⟨fault, hload, hmem, fun hutf8 ↦ ?_⟩
      have hentries : entries = _ := Reader.filterMap_entryOf?_utf8 hutf8 (RawLine.ofBytes content)
      rw [hentries, List.mem_map] at hmem
      obtain ⟨_, -, hok⟩ := hmem
      exact nomatch hok

/-- Between two bindings of one key stands one of another key, which the groups put behind them. -/
theorem find_eq_firstFor_between :
    ∃ layout,
      (load (treeOf "key A-Shift : \"a\"\nkey B : erase\nkey A : \"A\"\n".toList)
          (.ofText "/a.keytab".toList) Settings.trial).value = .ok layout ∧
        layout.bindings.map (fun b ↦ b.keyCode) = [0x41, 0x41, 0x42] ∧
        (layout.find ⟨0x41, Modifier.shift.bit, 0⟩).text = [0x41] ∧
        (layout.find ⟨0x42, Modifier.shift.bit, 0⟩).command = .erase ∧
        layout.find ⟨0x43, 0, 0⟩ = Binding.null := by
  have hread : (treeOf "key A-Shift : \"a\"\nkey B : erase\nkey A : \"A\"\n".toList).read
      (.ofText "/a.keytab".toList) =
        .ok (Utf8.encode "key A-Shift : \"a\"\nkey B : erase\nkey A : \"A\"\n".toList) := by
    decide +kernel
  rcases find_eq_firstFor.2 _ _ Settings.trial _ hread with
    ⟨layout, bindings, hload, hentries, hfind⟩ | ⟨fault, -, -, hutf8⟩
  · have hexpected : (RawLine.ofBytes
        (Utf8.encode "key A-Shift : \"a\"\nkey B : erase\nkey A : \"A\"\n".toList)).filterMap
          (Reader.entryOf? Settings.trial) =
        [⟨⟨0x41, 0, Modifier.shift.bit, 0, 0⟩, .none, [0x61]⟩, ⟨⟨0x42, 0, 0, 0, 0⟩, .erase, []⟩,
          ⟨⟨0x41, 0, 0, 0, 0⟩, .none, [0x41]⟩].map .ok := by
      decide +kernel
    obtain rfl :=
      List.map_injective_iff.mpr (fun _ _ ↦ Except.ok.inj) (hexpected.symm.trans hentries)
    have horder : (load (treeOf
        "key A-Shift : \"a\"\nkey B : erase\nkey A : \"A\"\n".toList)
          (.ofText "/a.keytab".toList) Settings.trial).value.map
            (fun l ↦ l.bindings.map fun b ↦ b.keyCode) = .ok [0x41, 0x41, 0x42] := by
      decide +kernel
    rw [hload] at horder
    refine ⟨layout, hload, Except.ok.inj horder, ?_, ?_, ?_⟩
    · rw [hfind]
      decide +kernel
    · rw [hfind]
      decide +kernel
    · rw [hfind]
      decide +kernel
  · exact absurd ⟨rfl, rfl⟩ hutf8

end TermKeys.Layout
