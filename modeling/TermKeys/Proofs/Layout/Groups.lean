import Mathlib.Data.List.Basic
import TermKeys.Layout

/-!
The groups of a layout. Each key has one group, which holds only its bindings and at least one
(`Layout.IsGrouped`); adding bindings keeps that and loses none of them (`perm_bindings_addAll`).
Bindings that come in the order of the groups of a layout are grouped in that order
(`bindings_addAll_of_grouped`).
-/

set_option autoImplicit false

namespace TermKeys.Layout

/-- Groups with bindings of their own keys, at least one each, and one group for each key. -/
structure IsGrouped (groups : List Group) : Prop where
  nodup : (groups.map Group.keyCode).Nodup
  ne_nil : ∀ group ∈ groups, group.bindings ≠ []
  keyCode_eq : ∀ group ∈ groups, ∀ b ∈ group.bindings, b.keyCode = group.keyCode

theorem isGrouped_nil : IsGrouped [] := ⟨List.nodup_nil, by simp, by simp⟩

theorem IsGrouped.tail {group : Group} {rest : List Group} (h : IsGrouped (group :: rest)) :
    IsGrouped rest :=
  ⟨(List.nodup_cons.mp h.nodup).2,
    fun other hother ↦ h.ne_nil other (List.mem_cons_of_mem _ hother),
    fun other hother ↦ h.keyCode_eq other (List.mem_cons_of_mem _ hother)⟩

/-! ### Adding a binding -/

theorem keyCode_of_mem_addTo {binding : Binding} {groups : List Group} {keyCode : Int}
    (h : keyCode ∈ (addTo binding groups).map Group.keyCode) :
    keyCode = binding.keyCode ∨ keyCode ∈ groups.map Group.keyCode := by
  induction groups with
  | nil => exact Or.inl (by simpa [addTo] using h)
  | cons group rest ih =>
    rw [addTo] at h
    split_ifs at h with hkey
    · exact Or.inr h
    · rcases List.mem_cons.mp h with rfl | h
      · exact Or.inr List.mem_cons_self
      · exact (ih h).imp_right fun hmem ↦ List.mem_cons_of_mem _ hmem

theorem isGrouped_addTo (binding : Binding) {groups : List Group} (h : IsGrouped groups) :
    IsGrouped (addTo binding groups) := by
  induction groups with
  | nil => exact ⟨by simp [addTo], by simp [addTo], by simp [addTo]⟩
  | cons group rest ih =>
    have hgroup := h.keyCode_eq group List.mem_cons_self
    rw [addTo]
    split_ifs with hkey
    · refine ⟨h.nodup, fun other hother ↦ ?_, fun other hother b hb ↦ ?_⟩
      · rcases List.mem_cons.mp hother with rfl | hother
        · simp
        · exact h.tail.ne_nil other hother
      · rcases List.mem_cons.mp hother with rfl | hother
        · rcases List.mem_append.mp hb with hb | hb
          · exact hgroup b hb
          · rw [List.mem_singleton.mp hb, hkey]
        · exact h.tail.keyCode_eq other hother b hb
    · have hrest := ih h.tail
      refine ⟨List.nodup_cons.mpr ⟨fun hmem ↦ ?_, hrest.nodup⟩, fun other hother ↦ ?_,
        fun other hother ↦ ?_⟩
      · rcases keyCode_of_mem_addTo hmem with heq | hmem
        · exact hkey heq
        · exact (List.nodup_cons.mp h.nodup).1 hmem
      · rcases List.mem_cons.mp hother with rfl | hother
        · exact h.ne_nil _ List.mem_cons_self
        · exact hrest.ne_nil other hother
      · rcases List.mem_cons.mp hother with rfl | hother
        · exact hgroup
        · exact hrest.keyCode_eq other hother

theorem perm_addTo (binding : Binding) (groups : List Group) :
    ((addTo binding groups).flatMap Group.bindings).Perm
      (groups.flatMap Group.bindings ++ [binding]) := by
  induction groups with
  | nil => simp [addTo]
  | cons group rest ih =>
    rw [addTo]
    split_ifs
    · simp only [List.flatMap_cons, List.append_assoc]
      exact List.perm_append_comm.append_left group.bindings
    · rw [List.flatMap_cons, List.flatMap_cons, List.append_assoc]
      exact ih.append_left group.bindings

/-! ### Adding bindings -/

theorem groups_addAll (layout : Layout) (bindings : List Binding) :
    (layout.addAll bindings).groups =
      bindings.foldl (fun groups b ↦ addTo b groups) layout.groups := by
  unfold addAll
  induction bindings generalizing layout with
  | nil => rfl
  | cons binding rest ih => exact ih (layout.add binding)

/-- What holds of a layout and is kept by adding a binding holds after adding any. -/
theorem addAll_induction {P : Layout → Prop}
    (hadd : ∀ layout binding, P layout → P (layout.add binding)) {layout : Layout} (h : P layout)
    (bindings : List Binding) : P (layout.addAll bindings) := by
  unfold addAll
  induction bindings generalizing layout with
  | nil => exact h
  | cons binding rest ih => exact ih (hadd layout binding h)

@[simp] theorem description_addAll (layout : Layout) (bindings : List Binding) :
    (layout.addAll bindings).description = layout.description :=
  addAll_induction (P := fun l ↦ l.description = layout.description) (fun _ _ h ↦ h) rfl bindings

theorem isGrouped_addAll {layout : Layout} (h : IsGrouped layout.groups) (bindings : List Binding) :
    IsGrouped (layout.addAll bindings).groups :=
  addAll_induction (P := fun l ↦ IsGrouped l.groups) (fun _ binding hl ↦ isGrouped_addTo binding hl)
    h bindings

/-- A layout has the bindings that were added and those it had, in some order. -/
theorem perm_bindings_addAll (layout : Layout) (bindings : List Binding) :
    (layout.addAll bindings).bindings.Perm (layout.bindings ++ bindings) := by
  unfold addAll
  induction bindings generalizing layout with
  | nil => simp
  | cons binding rest ih =>
    have hadd := (perm_addTo binding layout.groups).append_right rest
    rw [List.append_assoc] at hadd
    exact (ih (layout.add binding)).trans hadd

/-! ### Bindings in the order of groups -/

/-- A binding of a key without a group among the first ones goes to the groups after these. -/
theorem addTo_append {binding : Binding} {before : List Group}
    (h : ∀ group ∈ before, group.keyCode ≠ binding.keyCode) (after : List Group) :
    addTo binding (before ++ after) = before ++ addTo binding after := by
  induction before with
  | nil => rfl
  | cons group rest ih =>
    rw [List.cons_append, addTo, if_neg (h group List.mem_cons_self),
      ih fun other hother ↦ h other (List.mem_cons_of_mem _ hother)]
    rfl

/-- Bindings of one key extend its group at the end. -/
theorem foldl_addTo_extend {keyCode : Int} {before : List Group}
    (hbefore : ∀ group ∈ before, group.keyCode ≠ keyCode) {bindings : List Binding}
    (hbindings : ∀ b ∈ bindings, b.keyCode = keyCode) (held : List Binding) :
    bindings.foldl (fun groups b ↦ addTo b groups) (before ++ [⟨keyCode, held⟩]) =
      before ++ [⟨keyCode, held ++ bindings⟩] := by
  induction bindings generalizing held with
  | nil => simp
  | cons binding rest ih =>
    have hkey := hbindings binding List.mem_cons_self
    rw [List.foldl_cons, addTo_append (by rwa [hkey]), addTo, if_pos hkey.symm,
      ih (fun b hb ↦ hbindings b (List.mem_cons_of_mem _ hb)), List.append_assoc]
    rfl

/-- Bindings of one new key make a group at the end. -/
theorem foldl_addTo_new {keyCode : Int} {before : List Group}
    (hbefore : ∀ group ∈ before, group.keyCode ≠ keyCode) {bindings : List Binding}
    (hbindings : ∀ b ∈ bindings, b.keyCode = keyCode) (hne : bindings ≠ []) :
    bindings.foldl (fun groups b ↦ addTo b groups) before = before ++ [⟨keyCode, bindings⟩] := by
  obtain ⟨first, rest, rfl⟩ := List.exists_cons_of_ne_nil hne
  have hkey := hbindings first List.mem_cons_self
  have hnew : ∀ group ∈ before, group.keyCode ≠ first.keyCode := by rwa [hkey]
  have hfirst := addTo_append hnew []
  rw [List.append_nil, addTo, hkey] at hfirst
  rw [List.foldl_cons, hfirst,
    foldl_addTo_extend hbefore fun b hb ↦ hbindings b (List.mem_cons_of_mem _ hb)]
  rfl

/-- Bindings whose keys come in the order of some groups are grouped in that order. -/
theorem flatMap_foldl_addTo {groups before : List Group} (hgrouped : IsGrouped groups)
    (hbefore : ∀ group ∈ before, group.keyCode ∉ groups.map Group.keyCode)
    {bindings : List Binding}
    (hcodes : bindings.map (fun b ↦ b.keyCode) =
      (groups.flatMap Group.bindings).map fun b ↦ b.keyCode) :
    (bindings.foldl (fun groups b ↦ addTo b groups) before).flatMap Group.bindings =
      before.flatMap Group.bindings ++ bindings := by
  induction groups generalizing before bindings with
  | nil =>
    obtain rfl : bindings = [] := by simpa using hcodes
    simp
  | cons group rest ih =>
    rw [List.flatMap_cons, List.map_append, List.map_eq_append_iff] at hcodes
    obtain ⟨front, back, rfl, hfront, hback⟩ := hcodes
    have hkeys : ∀ b ∈ front, b.keyCode = group.keyCode := by
      intro b hb
      have hmem : b.keyCode ∈ group.bindings.map fun b ↦ b.keyCode :=
        hfront ▸ List.mem_map_of_mem hb
      obtain ⟨other, hother, heq⟩ := List.mem_map.mp hmem
      rw [← heq]
      exact hgrouped.keyCode_eq group List.mem_cons_self other hother
    have hne : front ≠ [] := by
      rintro rfl
      exact hgrouped.ne_nil group List.mem_cons_self (List.map_eq_nil_iff.mp hfront.symm)
    have hnew : ∀ other ∈ before, other.keyCode ≠ group.keyCode :=
      fun other hother heq ↦ hbefore other hother (heq ▸ List.mem_cons_self)
    have hnext : ∀ other ∈ before ++ [⟨group.keyCode, front⟩],
        other.keyCode ∉ rest.map Group.keyCode := by
      intro other hother
      rcases List.mem_append.mp hother with hother | hother
      · exact fun hmem ↦ hbefore other hother (List.mem_cons_of_mem _ hmem)
      · rw [List.mem_singleton.mp hother]
        exact (List.nodup_cons.mp hgrouped.nodup).1
    rw [List.foldl_append, foldl_addTo_new hnew hkeys hne, ih hgrouped.tail hnext hback]
    simp

theorem bindings_addAll_of_grouped {layout : Layout} (hgrouped : IsGrouped layout.groups)
    {bindings : List Binding}
    (hcodes : bindings.map (fun b ↦ b.keyCode) = layout.bindings.map fun b ↦ b.keyCode)
    (name description : Text) : ((empty name description).addAll bindings).bindings = bindings := by
  rw [Layout.bindings, groups_addAll]
  exact flatMap_foldl_addTo hgrouped (by simp [empty]) hcodes

end TermKeys.Layout
