import TermKeys.Key

/-!
Key names joined by commas. A comma ends the names in front of it and begins those behind it, so two
texts of key names with a comma between them are read one after the other (`codes?_append_comma`),
and one name that is unknown leaves no code of either (`codes_append_comma`). A comma alone is the
name of the comma key: both laws leave out that text on either side, and the comma between two empty
texts.
-/

set_option autoImplicit false

namespace TermKeys.Key

variable {keys first second : Text}

/-- Apart from the comma key, the codes of some names are those of the pieces between the commas. -/
theorem codes?_of_ne (h : keys ≠ [',']) :
    codes? keys = (Text.splitOn ',' keys).mapM fun unit ↦ codeOf? (Text.trim unit) := by
  rw [codes?, if_neg h]

/-! ### Unknown names -/

/-- Names are known together just if each of them is. -/
theorem isSome_mapM_iff {α β : Type} {f : α → Option β} {values : List α} :
    (values.mapM f).isSome = true ↔ ∀ a ∈ values, (f a).isSome = true := by
  induction values with
  | nil => simp
  | cons a rest ih =>
    rw [List.forall_mem_cons, ← ih, List.mapM_cons]
    cases f a with
    | none => simp
    | some b => cases rest.mapM f <;> simp

/-- Some names are always at least one, so they have a code if they are known. -/
theorem ne_nil_of_codes? {found : List Nat} (h : codes? keys = some found) : found ≠ [] := by
  by_cases hcomma : keys = [',']
  · rw [codes?, if_pos hcomma] at h
    exact Option.some.inj h ▸ List.cons_ne_nil _ _
  · obtain ⟨unit, units, hunits⟩ :=
      List.exists_cons_of_ne_nil (Text.splitOn_ne_nil ',' keys)
    rw [codes?_of_ne hcomma, hunits, List.mapM_cons] at h
    obtain ⟨code, -, h⟩ := Option.bind_eq_some_iff.mp h
    obtain ⟨others, -, h⟩ := Option.bind_eq_some_iff.mp h
    exact Option.some.inj h ▸ List.cons_ne_nil code others

/-- No codes are given just where a name is unknown. -/
theorem codes_ne_nil_iff : codes keys ≠ [] ↔ (codes? keys).isSome = true := by
  rw [codes]
  cases hcodes : codes? keys with
  | none => simp
  | some found => simpa using ne_nil_of_codes? hcodes

theorem codes_ne_nil_iff_forall (h : keys ≠ [',']) :
    codes keys ≠ [] ↔
      ∀ unit ∈ Text.splitOn ',' keys, (codeOf? (Text.trim unit)).isSome = true := by
  rw [codes_ne_nil_iff, codes?_of_ne h, isSome_mapM_iff]

/-! ### A comma between names -/

theorem append_comma_ne (hne : ¬(first = [] ∧ second = [])) : first ++ ',' :: second ≠ [','] := by
  rw [Ne, List.append_eq_singleton_iff]
  rintro (⟨rfl, hcomma⟩ | ⟨-, hnil⟩)
  · exact hne ⟨rfl, (List.cons.inj hcomma).2⟩
  · exact List.cons_ne_nil _ _ hnil

section

variable (hfirst : first ≠ [',']) (hsecond : second ≠ [',']) (hne : ¬(first = [] ∧ second = []))
include hfirst hsecond hne

/-- Names in front of a comma and behind it are read one after the other, if all are known. -/
theorem codes?_append_comma :
    codes? (first ++ ',' :: second) =
      (codes? first).bind fun front ↦ (codes? second).map (front ++ ·) := by
  rw [codes?_of_ne (append_comma_ne hne), codes?_of_ne hfirst, codes?_of_ne hsecond,
    Text.splitOn_append_cons, List.mapM_append]
  cases (Text.splitOn ',' first).mapM fun unit ↦ codeOf? (Text.trim unit) with
  | none => rfl
  | some front =>
    cases (Text.splitOn ',' second).mapM fun unit ↦ codeOf? (Text.trim unit) <;> rfl

/-- The codes of key names with a comma between them are those of the names in front of it and then
those of the names behind it, if both have codes, and none otherwise. There are any just if every
piece between two commas names a key, with or without blanks around it. -/
theorem codes_append_comma :
    codes (first ++ ',' :: second) =
        (if codes first ≠ [] ∧ codes second ≠ [] then codes first ++ codes second else []) ∧
      (codes (first ++ ',' :: second) ≠ [] ↔
        ∀ unit ∈ Text.splitOn ',' first ++ Text.splitOn ',' second,
          (codeOf? (Text.trim unit)).isSome = true) := by
  have hjoined := codes?_append_comma hfirst hsecond hne
  refine ⟨?_, ?_⟩
  · cases hfront : codes? first with
    | none => simp [codes, hjoined, hfront]
    | some front =>
      cases hback : codes? second with
      | none => simp [codes, hjoined, hfront, hback]
      | some back =>
        have hboth : front ≠ [] ∧ back ≠ [] := ⟨ne_nil_of_codes? hfront, ne_nil_of_codes? hback⟩
        simp [codes, hjoined, hfront, hback, hboth]
  · rw [codes_ne_nil_iff_forall (append_comma_ne hne), Text.splitOn_append_cons]

end

/-- Blanks around the names and a character whose upper case is two; and an empty name behind a
second comma, which takes the codes of all of them. -/
theorem codes_append_comma_blanks :
    codes ("\u00df ,\tf1".toList ++ ',' :: "Esc\u3000".toList) = [0xDF, 0x1000030, 0x1000000] ∧
      codes ("\u00df ,\tf1".toList ++ ',' :: ", Esc".toList) = [] := by
  have hnames : codes "\u00df ,\tf1".toList = [0xDF, 0x1000030] := by decide +kernel
  have hesc : codes "Esc\u3000".toList = [0x1000000] := by decide +kernel
  have hempty : codes ", Esc".toList = [] := by decide +kernel
  have hsingle := @codes_append_comma "\u00df ,\tf1".toList "Esc\u3000".toList (by decide)
    (by decide) (by decide)
  have hdouble := @codes_append_comma "\u00df ,\tf1".toList ", Esc".toList (by decide) (by decide)
    (by decide)
  rw [hnames, hesc] at hsingle
  rw [hnames, hempty] at hdouble
  exact ⟨hsingle.1, hdouble.1⟩

end TermKeys.Key
