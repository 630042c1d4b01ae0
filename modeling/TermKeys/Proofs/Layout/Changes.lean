import Mathlib.Data.List.Infix
import TermKeys.Proofs.Layout.Groups

/-!
Runs of changes to a layout. Bindings are added, removed and replaced in any order, and the groups
of the layout stay well formed all the while (`isGrouped_changes`). A plain list that goes through
the same changes holds the same bindings of each key in the same order (`ofKey_changes`), although
the two may have the keys in a different order. One change never touches any other binding: it takes
one out of the list of all bindings, or puts one into it, or both (`exists_change`). Together this
is `bindings_changes`.
-/

set_option autoImplicit false

namespace TermKeys.Layout

/-- A change to the bindings of a layout. -/
inductive Change
  | add (binding : Binding)
  | remove (binding : Binding)
  | replace (old new : Binding)
deriving DecidableEq, Repr

/-- A layout after a change. -/
def change (layout : Layout) : Change → Layout
  | .add binding => layout.add binding
  | .remove binding => layout.remove binding
  | .replace old new => layout.replace old new

/-- A layout after some changes in order. -/
def changes (layout : Layout) (cs : List Change) : Layout := cs.foldl change layout

/-- What a change leaves of a list of bindings: all but the earliest one that equals the binding
to be removed. The binding that stands for none is never one to be replaced. -/
def Change.kept : Change → List Binding → List Binding
  | add _, bindings => bindings
  | remove binding, bindings => bindings.erase binding
  | replace old _, bindings => if old.isNull then bindings else bindings.erase old

/-- The binding that a change brings, if it brings one. -/
def Change.added : Change → List Binding
  | add binding | replace _ binding => [binding]
  | remove _ => []

/-- A list of bindings after a change. New ones go to its end. -/
def Change.onList (c : Change) (bindings : List Binding) : List Binding :=
  c.kept bindings ++ c.added

/-- A list of bindings after some changes in order. -/
def listAfter (bindings : List Binding) (cs : List Change) : List Binding :=
  cs.foldl (fun held c ↦ c.onList held) bindings

/-! ### Removing a binding -/

theorem mem_removeFrom {binding : Binding} {groups : List Group} {group : Group}
    (h : group ∈ removeFrom binding groups) :
    group ∈ groups ∨ ∃ other ∈ groups, other.keyCode = binding.keyCode ∧
      group = { other with bindings := other.bindings.erase binding } ∧ group.bindings ≠ [] := by
  induction groups with
  | nil => exact absurd h List.not_mem_nil
  | cons first rest ih =>
    rw [removeFrom] at h
    split_ifs at h with hkey
    · split at h
      · exact Or.inl (List.mem_cons_of_mem _ h)
      · next hne =>
        rcases List.mem_cons.mp h with rfl | h
        · exact Or.inr ⟨first, List.mem_cons_self, hkey, rfl, hne⟩
        · exact Or.inl (List.mem_cons_of_mem _ h)
    · rcases List.mem_cons.mp h with rfl | h
      · exact Or.inl List.mem_cons_self
      · rcases ih h with h | ⟨other, hother, hgroup⟩
        · exact Or.inl (List.mem_cons_of_mem _ h)
        · exact Or.inr ⟨other, List.mem_cons_of_mem _ hother, hgroup⟩

theorem keyCodes_removeFrom_sublist (binding : Binding) (groups : List Group) :
    ((removeFrom binding groups).map Group.keyCode).Sublist (groups.map Group.keyCode) := by
  induction groups with
  | nil => exact List.Sublist.refl _
  | cons group rest ih =>
    rw [removeFrom]
    split_ifs
    · split
      · exact List.sublist_cons_self _ _
      · exact List.Sublist.refl _
    · exact ih.cons_cons _

theorem isGrouped_removeFrom (binding : Binding) {groups : List Group} (h : IsGrouped groups) :
    IsGrouped (removeFrom binding groups) := by
  refine ⟨h.nodup.sublist (keyCodes_removeFrom_sublist binding groups),
    fun group hgroup ↦ ?_, fun group hgroup b hb ↦ ?_⟩
  · rcases mem_removeFrom hgroup with hmem | ⟨_, -, -, -, hne⟩
    · exact h.ne_nil group hmem
    · exact hne
  · rcases mem_removeFrom hgroup with hmem | ⟨other, hmem, -, rfl, -⟩
    · exact h.keyCode_eq group hmem b hb
    · exact h.keyCode_eq other hmem b (List.mem_of_mem_erase hb)

/-- The bindings of groups without one with the key of the given binding. -/
theorem IsGrouped.not_mem {groups : List Group} (h : IsGrouped groups) {binding : Binding}
    (hkey : binding.keyCode ∉ groups.map Group.keyCode) :
    binding ∉ groups.flatMap Group.bindings := by
  intro hmem
  obtain ⟨group, hgroup, hbinding⟩ := List.mem_flatMap.mp hmem
  exact hkey (h.keyCode_eq group hgroup binding hbinding ▸ List.mem_map_of_mem hgroup)

/-- Of all bindings in a row the earliest one that equals the given one is removed. -/
theorem flatMap_removeFrom (binding : Binding) {groups : List Group} (h : IsGrouped groups) :
    (removeFrom binding groups).flatMap Group.bindings =
      (groups.flatMap Group.bindings).erase binding := by
  induction groups with
  | nil => rfl
  | cons group rest ih =>
    rw [removeFrom, List.flatMap_cons]
    split_ifs with hkey
    · have hrest : binding ∉ rest.flatMap Group.bindings :=
        h.tail.not_mem (hkey ▸ (List.nodup_cons.mp h.nodup).1)
      have herase : (group.bindings ++ rest.flatMap Group.bindings).erase binding =
          group.bindings.erase binding ++ rest.flatMap Group.bindings := by
        by_cases hmem : binding ∈ group.bindings
        · exact List.erase_append_left _ hmem
        · rw [List.erase_append_right _ hmem, List.erase_of_not_mem hrest,
            List.erase_of_not_mem hmem]
      rw [herase]
      split
      · next hnil => rw [hnil, List.nil_append]
      · rw [List.flatMap_cons]
    · have hgroup : binding ∉ group.bindings :=
        fun hmem ↦ hkey (h.keyCode_eq group List.mem_cons_self binding hmem).symm
      rw [List.flatMap_cons, ih h.tail, List.erase_append_right _ hgroup]

/-! ### One change -/

/-- A binding that is added is put between others, behind all those of its key. -/
theorem exists_flatMap_addTo (binding : Binding) {groups : List Group} (h : IsGrouped groups) :
    ∃ front back, groups.flatMap Group.bindings = front ++ back ∧
      (addTo binding groups).flatMap Group.bindings = front ++ binding :: back ∧
      ∀ b ∈ back, b.keyCode ≠ binding.keyCode := by
  induction groups with
  | nil => exact ⟨[], [], rfl, rfl, fun _ hb ↦ absurd hb List.not_mem_nil⟩
  | cons group rest ih =>
    rw [addTo]
    split_ifs with hkey
    · refine ⟨group.bindings, rest.flatMap Group.bindings, rfl, ?_, fun b hb heq ↦ ?_⟩
      · rw [List.flatMap_cons, List.append_assoc, List.singleton_append]
      · have hnew : b.keyCode ∉ rest.map Group.keyCode :=
          heq ▸ hkey ▸ (List.nodup_cons.mp h.nodup).1
        exact h.tail.not_mem hnew hb
    · obtain ⟨front, back, hsplit, hadded, hback⟩ := ih h.tail
      refine ⟨group.bindings ++ front, back, ?_, ?_, hback⟩
      · rw [List.flatMap_cons, hsplit, List.append_assoc]
      · rw [List.flatMap_cons, hadded, List.append_assoc]

variable {layout : Layout}

theorem isGrouped_change (h : IsGrouped layout.groups) (c : Change) :
    IsGrouped (layout.change c).groups := by
  cases c with
  | add binding => exact isGrouped_addTo binding h
  | remove binding => exact isGrouped_removeFrom binding h
  | replace old new =>
    rw [change, replace]
    split_ifs
    · exact isGrouped_addTo new h
    · exact isGrouped_addTo new (isGrouped_removeFrom old h)

/-- A binding that is added to a layout goes behind all those of its key. -/
theorem exists_add (h : IsGrouped layout.groups) (binding : Binding) :
    ∃ front back, layout.bindings = front ++ back ∧
      (layout.add binding).bindings = front ++ [binding] ++ back ∧
      ∀ new ∈ [binding], ∀ b ∈ back, b.keyCode ≠ new.keyCode := by
  obtain ⟨front, back, hsplit, hadded, hback⟩ := exists_flatMap_addTo binding h
  refine ⟨front, back, hsplit, ?_, fun new hnew ↦ List.mem_singleton.mp hnew ▸ hback⟩
  rw [List.append_assoc]
  exact hadded

/-- All bindings after one change: those that it leaves, and somewhere among them the one that it
brings, behind all those of its key. -/
theorem exists_change (h : IsGrouped layout.groups) (c : Change) :
    ∃ front back, c.kept layout.bindings = front ++ back ∧
      (layout.change c).bindings = front ++ c.added ++ back ∧
      ∀ new ∈ c.added, ∀ b ∈ back, b.keyCode ≠ new.keyCode := by
  cases c with
  | add binding => exact exists_add h binding
  | remove binding =>
    refine ⟨layout.bindings.erase binding, [], (List.append_nil _).symm, ?_, by simp [Change.added]⟩
    rw [Change.added, List.append_nil, List.append_nil]
    exact flatMap_removeFrom binding h
  | replace old new =>
    rw [change, replace, Change.kept]
    split_ifs
    · exact exists_add h new
    · have hremoved : IsGrouped (layout.remove old).groups := isGrouped_removeFrom old h
      obtain ⟨front, back, hsplit, hadded⟩ := exists_add hremoved new
      exact ⟨front, back, (flatMap_removeFrom old h).symm.trans hsplit, hadded⟩

/-! ### The bindings of one key -/

/-- The bindings of a key among some. -/
def ofKey (keyCode : Int) (bindings : List Binding) : List Binding :=
  bindings.filter fun b ↦ b.keyCode = keyCode

@[simp] theorem ofKey_append (keyCode : Int) (first second : List Binding) :
    ofKey keyCode (first ++ second) = ofKey keyCode first ++ ofKey keyCode second :=
  List.filter_append _ _

theorem ofKey_erase (keyCode : Int) (bindings : List Binding) (binding : Binding) :
    ofKey keyCode (bindings.erase binding) = (ofKey keyCode bindings).erase binding :=
  (List.erase_filter ..).symm

theorem ofKey_eq_nil {keyCode : Int} {bindings : List Binding}
    (h : ∀ b ∈ bindings, b.keyCode ≠ keyCode) : ofKey keyCode bindings = [] :=
  List.filter_eq_nil_iff.mpr fun b hb ↦ by simpa using h b hb

theorem ofKey_eq_self {keyCode : Int} {bindings : List Binding}
    (h : ∀ b ∈ bindings, b.keyCode = keyCode) : ofKey keyCode bindings = bindings :=
  List.filter_eq_self.mpr fun b hb ↦ by simpa using h b hb

/-- The bindings of a key are those of its group. -/
theorem ofKey_flatMap_cons {group : Group} {rest : List Group} (h : IsGrouped (group :: rest))
    (keyCode : Int) :
    ofKey keyCode ((group :: rest).flatMap Group.bindings) =
      if group.keyCode = keyCode then group.bindings
      else ofKey keyCode (rest.flatMap Group.bindings) := by
  have hgroup := h.keyCode_eq group List.mem_cons_self
  rw [List.flatMap_cons, ofKey_append]
  split_ifs with hkey
  · have hrest : ∀ b ∈ rest.flatMap Group.bindings, b.keyCode ≠ keyCode := fun b hb heq ↦
      h.tail.not_mem (heq ▸ hkey ▸ (List.nodup_cons.mp h.nodup).1) hb
    rw [ofKey_eq_self fun b hb ↦ (hgroup b hb).trans hkey, ofKey_eq_nil hrest, List.append_nil]
  · rw [ofKey_eq_nil fun b hb heq ↦ hkey ((hgroup b hb).symm.trans heq), List.nil_append]

/-- The bindings of a key stand together in groups. -/
theorem ofKey_together {groups : List Group} (h : IsGrouped groups) (keyCode : Int) :
    ofKey keyCode (groups.flatMap Group.bindings) <:+: groups.flatMap Group.bindings := by
  induction groups with
  | nil => exact List.infix_refl _
  | cons group rest ih =>
    rw [ofKey_flatMap_cons h, List.flatMap_cons]
    split_ifs
    · exact (List.prefix_append _ _).isInfix
    · exact (ih h.tail).trans (List.suffix_append _ _).isInfix

/-- What a change makes of the bindings of a key depends on these alone. -/
theorem ofKey_onList_congr {keyCode : Int} {first second : List Binding}
    (h : ofKey keyCode first = ofKey keyCode second) (c : Change) :
    ofKey keyCode (c.onList first) = ofKey keyCode (c.onList second) := by
  have hkept : ofKey keyCode (c.kept first) = ofKey keyCode (c.kept second) := by
    cases c with
    | add _ => exact h
    | remove binding => rw [Change.kept, Change.kept, ofKey_erase, ofKey_erase, h]
    | replace old _ =>
      rw [Change.kept, Change.kept]
      split_ifs
      · exact h
      · rw [ofKey_erase, ofKey_erase, h]
  rw [Change.onList, Change.onList, ofKey_append, ofKey_append, hkept]

/-- A change makes of the bindings of a key in a layout what it makes of them in a list. -/
theorem ofKey_change (h : IsGrouped layout.groups) (c : Change) (keyCode : Int) :
    ofKey keyCode (layout.change c).bindings = ofKey keyCode (c.onList layout.bindings) := by
  obtain ⟨front, back, hkept, hbindings, hback⟩ := exists_change h c
  -- The new binding may stand in front of others, but not in front of one of its own key.
  have hswap : ofKey keyCode c.added ++ ofKey keyCode back =
      ofKey keyCode back ++ ofKey keyCode c.added := by
    by_cases hnone : ofKey keyCode c.added = []
    · rw [hnone, List.nil_append, List.append_nil]
    · obtain ⟨new, hnew⟩ := List.exists_mem_of_ne_nil _ hnone
      obtain ⟨hmem, hkey⟩ := List.mem_filter.mp hnew
      have hbehind : ofKey keyCode back = [] :=
        ofKey_eq_nil fun b hb ↦ of_decide_eq_true hkey ▸ hback new hmem b hb
      rw [hbehind, List.nil_append, List.append_nil]
  rw [Change.onList, hkept, hbindings]
  simp only [ofKey_append, List.append_assoc]
  rw [hswap]

/-! ### Runs of changes -/

theorem isGrouped_changes (h : IsGrouped layout.groups) (cs : List Change) :
    IsGrouped (layout.changes cs).groups := by
  unfold changes
  induction cs generalizing layout with
  | nil => exact h
  | cons c rest ih => exact ih (isGrouped_change h c)

theorem ofKey_changes (h : IsGrouped layout.groups) {keyCode : Int} {bindings : List Binding}
    (hbindings : ofKey keyCode layout.bindings = ofKey keyCode bindings) (cs : List Change) :
    ofKey keyCode (layout.changes cs).bindings = ofKey keyCode (listAfter bindings cs) := by
  unfold changes listAfter
  induction cs generalizing layout bindings with
  | nil => exact hbindings
  | cons c rest ih =>
    have hstep := (ofKey_change h c keyCode).trans (ofKey_onList_congr hbindings c)
    exact ih (isGrouped_change h c) hstep

/-- A layout that has gone through any changes has well-formed groups. The bindings of each key
stand together in it, and they are those that the same changes leave of a plain list. No further
change loses, repeats or moves any other binding than those it names. -/
theorem bindings_changes (name description : Text) (cs : List Change) :
    let layout := (empty name description).changes cs
    IsGrouped layout.groups ∧
      (∀ keyCode,
        ofKey keyCode layout.bindings <:+: layout.bindings ∧
          ofKey keyCode layout.bindings = ofKey keyCode (listAfter [] cs)) ∧
      ∀ c : Change, ∃ front back, c.kept layout.bindings = front ++ back ∧
        (layout.change c).bindings = front ++ c.added ++ back := by
  intro layout
  have hgrouped : IsGrouped layout.groups := isGrouped_changes isGrouped_nil cs
  refine ⟨hgrouped, fun keyCode ↦ ⟨ofKey_together hgrouped keyCode, ?_⟩, fun c ↦ ?_⟩
  · exact ofKey_changes isGrouped_nil rfl cs
  · obtain ⟨front, back, hkept, hbindings, -⟩ := exists_change hgrouped c
    exact ⟨front, back, hkept, hbindings⟩

end TermKeys.Layout
