import TermKeys.Proofs.Layout.Changes

/-!
The order of the bindings of a layout. Adding bindings to an empty layout groups them by their keys,
the groups in the order in which their keys first occur and the bindings of each in the order in
which they came (`bindings_addAll_eq_groupedBy`). That is the order they came in if those of each
key stand together (`groupedBy_eq_self`).
-/

set_option autoImplicit false

namespace TermKeys

/-! ### Grouping a list -/

section Grouping

variable {α κ : Type} [DecidableEq κ] {key : α → κ} {list : List α}

theorem eraseDups_append_singleton (keys : List κ) (k : κ) :
    (keys ++ [k]).eraseDups = if k ∈ keys then keys.eraseDups else keys.eraseDups ++ [k] := by
  rw [List.eraseDups_append]
  split_ifs with hmem <;> simp [List.removeAll, hmem, List.eraseDups_cons]

/-- The members of a list grouped by their keys: the keys in the order in which they first occur,
and the members of each in the order of the list. -/
def groupedBy (key : α → κ) (list : List α) : List α :=
  (list.map key).eraseDups.flatMap fun k ↦ list.filter fun a ↦ key a = k

/-- Whether the members of each key stand together: none of another key stands between two of
them. -/
def StandTogether (key : α → κ) (list : List α) : Prop :=
  ∀ a b c, [a, b, c].Sublist list → key a = key c → key b = key a

theorem groupedBy_cons (key : α → κ) (a : α) (rest : List α) :
    groupedBy key (a :: rest) = a :: (rest.filter fun b ↦ key b = key a) ++
      groupedBy key (rest.filter fun b ↦ key b ≠ key a) := by
  have hkeys : (rest.map key).filter (fun k ↦ !k == key a) =
      (rest.filter fun b ↦ key b ≠ key a).map key := by
    rw [List.filter_map]
    congr 2
    funext b
    simp [beq_eq_decide]
  have hothers : ∀ k ∈ ((rest.filter fun b ↦ key b ≠ key a).map key).eraseDups,
      ((a :: rest).filter fun b ↦ key b = k) =
        (rest.filter fun b ↦ key b ≠ key a).filter fun b ↦ key b = k := by
    intro k hk
    obtain ⟨b, hb, rfl⟩ := List.mem_map.mp (List.mem_eraseDups.mp hk)
    have hne : key b ≠ key a := by simpa using List.of_mem_filter hb
    rw [List.filter_cons_of_neg (by simpa using Ne.symm hne), List.filter_filter]
    refine List.filter_congr fun c _ ↦ ?_
    by_cases hc : key c = key b <;> simp [hc, hne]
  rw [groupedBy, List.map_cons, List.eraseDups_cons, List.flatMap_cons, hkeys,
    List.filter_cons_of_pos (by simp), List.flatMap_congr hothers]
  rfl

theorem length_filter_lt_cons (p : α → Bool) (a : α) (rest : List α) :
    (rest.filter p).length < (a :: rest).length :=
  Nat.lt_succ_of_le (List.length_filter_le p rest)

theorem perm_groupedBy (key : α → κ) (list : List α) : (groupedBy key list).Perm list := by
  induction hlength : list.length using Nat.strongRecOn generalizing list with
  | ind length ih =>
    cases list with
    | nil => exact List.Perm.refl _
    | cons a rest =>
      have hrest := ih _ (hlength ▸ length_filter_lt_cons (fun b ↦ key b ≠ key a) a rest) _ rfl
      rw [groupedBy_cons, List.cons_append]
      refine List.Perm.cons a ((hrest.append_left _).trans ?_)
      simpa using List.filter_append_perm (fun b ↦ decide (key b = key a)) rest

omit [DecidableEq κ] in
theorem StandTogether.of_sublist {part : List α} (h : StandTogether key list)
    (hpart : part.Sublist list) : StandTogether key part :=
  fun a b c hsub ↦ h a b c (hsub.trans hpart)

/-- The members of the first key come first, and behind them there are no more. -/
theorem StandTogether.exists_append {a : α} {rest : List α} (h : StandTogether key (a :: rest)) :
    ∃ front back, rest = front ++ back ∧ (∀ b ∈ front, key b = key a) ∧
      ∀ b ∈ back, key b ≠ key a := by
  refine ⟨rest.takeWhile fun b ↦ key b = key a, rest.dropWhile fun b ↦ key b = key a,
    List.takeWhile_append_dropWhile.symm, fun b hb ↦ ?_, fun c hc hkey ↦ ?_⟩
  · exact of_decide_eq_true (List.all_eq_true.mp List.all_takeWhile b hb)
  · have hfirst := List.head?_dropWhile_not (fun b ↦ decide (key b = key a)) rest
    cases hdrop : rest.dropWhile (fun b ↦ key b = key a) with
    | nil =>
      rw [hdrop] at hc
      exact absurd hc List.not_mem_nil
    | cons d more =>
      rw [hdrop] at hc hfirst
      have hd : key d ≠ key a := of_decide_eq_false hfirst
      rcases List.mem_cons.mp hc with rfl | hc
      · exact hd hkey
      · have hmore : [d, c].Sublist rest :=
          ((List.singleton_sublist.mpr hc).cons_cons d).trans (hdrop ▸ List.dropWhile_sublist _)
        exact hd (h a d c (hmore.cons_cons a) hkey.symm)

/-- A list whose members of each key stand together is grouped as it is. -/
theorem groupedBy_eq_self (h : StandTogether key list) : groupedBy key list = list := by
  induction hlength : list.length using Nat.strongRecOn generalizing list with
  | ind length ih =>
    cases list with
    | nil => rfl
    | cons a rest =>
      have hshort := length_filter_lt_cons (fun b ↦ key b ≠ key a) a rest
      have hrest := ih _ (hlength ▸ hshort) (h.of_sublist (List.filter_sublist.cons a)) rfl
      obtain ⟨front, back, rfl, hfront, hback⟩ := h.exists_append
      have hsame : ((front ++ back).filter fun b ↦ key b = key a) = front := by
        rw [List.filter_append, List.filter_eq_self.mpr (by simpa using hfront),
          List.filter_eq_nil_iff.mpr (by simpa using hback), List.append_nil]
      have hother : ((front ++ back).filter fun b ↦ key b ≠ key a) = back := by
        rw [List.filter_append, List.filter_eq_nil_iff.mpr (by simpa using hfront),
          List.filter_eq_self.mpr (by simpa using hback), List.nil_append]
      rw [groupedBy_cons, hrest, hsame, hother, List.cons_append]

end Grouping

namespace Layout

/-! ### The groups of added bindings -/

theorem ofKey_singleton_of_eq {keyCode : Int} {binding : Binding} (h : binding.keyCode = keyCode) :
    ofKey keyCode [binding] = [binding] :=
  ofKey_eq_self fun _ hb ↦ List.mem_singleton.mp hb ▸ h

theorem ofKey_singleton_of_ne {keyCode : Int} {binding : Binding} (h : binding.keyCode ≠ keyCode) :
    ofKey keyCode [binding] = [] :=
  ofKey_eq_nil fun _ hb ↦ List.mem_singleton.mp hb ▸ h

section

variable {binding : Binding} {keys : List Int}

/-- A binding of a key that has a group goes to the end of that group. -/
theorem addTo_map_of_mem (hkeys : keys.Nodup) (held : Int → List Binding)
    (hmem : binding.keyCode ∈ keys) :
    addTo binding (keys.map fun k ↦ ⟨k, held k⟩) =
      keys.map fun k ↦ ⟨k, held k ++ ofKey k [binding]⟩ := by
  induction keys with
  | nil => exact absurd hmem List.not_mem_nil
  | cons k keys ih =>
    obtain ⟨hk, hkeys⟩ := List.nodup_cons.mp hkeys
    rw [List.map_cons, List.map_cons, addTo]
    dsimp only
    split_ifs with heq
    · have hothers : ∀ other ∈ keys, ofKey other [binding] = [] := fun other hother ↦
        ofKey_singleton_of_ne fun hkey ↦ hk (heq ▸ hkey ▸ hother)
      rw [ofKey_singleton_of_eq heq.symm]
      refine congrArg _ (List.map_congr_left fun other hother ↦ ?_)
      rw [hothers other hother, List.append_nil]
    · rw [ih hkeys (List.mem_of_ne_of_mem (Ne.symm heq) hmem),
        ofKey_singleton_of_ne (Ne.symm heq), List.append_nil]

/-- A binding of a key that has no group makes one behind the others. -/
theorem addTo_map_of_not_mem (held : Int → List Binding) (hmem : binding.keyCode ∉ keys) :
    addTo binding (keys.map fun k ↦ ⟨k, held k⟩) =
      (keys.map fun k ↦ ⟨k, held k ++ ofKey k [binding]⟩) ++ [⟨binding.keyCode, [binding]⟩] := by
  have hothers : ∀ k ∈ keys, (⟨k, held k ++ ofKey k [binding]⟩ : Group) = ⟨k, held k⟩ := by
    intro k hk
    rw [ofKey_singleton_of_ne fun heq ↦ hmem (heq ▸ hk), List.append_nil]
  have hbefore : ∀ group ∈ keys.map fun k ↦ (⟨k, held k⟩ : Group),
      group.keyCode ≠ binding.keyCode := by
    intro group hgroup
    obtain ⟨k, hk, rfl⟩ := List.mem_map.mp hgroup
    exact fun heq ↦ hmem (heq ▸ hk)
  have hadd := addTo_append hbefore []
  rw [List.append_nil] at hadd
  rw [hadd, List.map_congr_left hothers]
  rfl

end

/-- The groups of added bindings: one for each key that occurs, in the order of first
occurrence. -/
theorem groups_addAll_empty (name description : Text) (bindings : List Binding) :
    ((empty name description).addAll bindings).groups =
      (bindings.map fun b ↦ b.keyCode).eraseDups.map fun k ↦ ⟨k, ofKey k bindings⟩ := by
  induction bindings using List.reverseRecOn with
  | nil => rfl
  | append_singleton bindings binding ih =>
    have hkeys : (bindings.map fun b ↦ b.keyCode).eraseDups.Nodup := by
      have hgrouped := @isGrouped_addAll (empty name description) isGrouped_nil bindings
      simpa [ih, Function.comp_def] using hgrouped.nodup
    rw [groups_addAll, List.foldl_append, ← groups_addAll, ih, List.map_append,
      List.map_singleton, eraseDups_append_singleton, List.foldl_cons, List.foldl_nil]
    split_ifs with hmem
    · rw [addTo_map_of_mem hkeys _ (List.mem_eraseDups.mpr hmem)]
      exact List.map_congr_left fun k _ ↦ by rw [ofKey_append]
    · have hnone : ofKey binding.keyCode bindings = [] :=
        ofKey_eq_nil fun b hb heq ↦ hmem (heq ▸ List.mem_map_of_mem hb)
      rw [addTo_map_of_not_mem _ fun h ↦ hmem (List.mem_eraseDups.mp h), List.map_append,
        List.map_singleton, ofKey_append, hnone, List.nil_append, ofKey_singleton_of_eq rfl]
      simp only [ofKey_append]

/-- The bindings of a layout are those that were added, grouped by their keys. -/
theorem bindings_addAll_eq_groupedBy (name description : Text) (bindings : List Binding) :
    ((empty name description).addAll bindings).bindings =
      groupedBy (fun b ↦ b.keyCode) bindings := by
  rw [Layout.bindings, groups_addAll_empty, List.flatMap_map]
  rfl

end Layout

end TermKeys
