import Mathlib.Tactic.SplitIfs
import TermKeys.Proofs.Descriptor
import TermKeys.Proofs.Encoding.Strict

/-!
Key codes and what descriptors make of their names. A key is readable if a descriptor can name it:
it is one of the named keys other than the four that share their names with modifiers, or a
character in upper case (`Readable`). Its written form is a single item and names it again
(`exists_spells`), and no descriptor names any other key (`readable_decode`). Of the other codes
some have no name (`points_eq_error_iff`), and some have one without a written form (`IsSurrogate`).
-/

set_option autoImplicit false

namespace TermKeys.Key

open Unicode

/-- The keys that share their names with modifiers, which are found first. -/
def modifierKeys : List Nat := [0x1000020, 0x1000021, 0x1000022, 0x1000023]

/-- The characters that no written condition has: those with a meaning of their own in a line, and
the null character. -/
def marks : List Char := ['"', '#', ':', Char.ofNat 0]

/-- The codes of the keys that a descriptor can name, and of the unknown key. -/
inductive Readable : Int → Prop
  | named (key : NamedKey) : key ∈ named → key.code ∉ modifierKeys → Readable key.code
  | character (c : Char) : Folded c → isBlank c = false → Readable (upperOne c).toNat

/-! ### Names -/

theorem spelling_ne_nil : ∀ key ∈ named, spelling key ≠ [] := by decide +kernel

/-- The names that are written are of ASCII letters and digits. -/
theorem mem_spelling : ∀ key ∈ named, ∀ c ∈ spelling key,
    c.toNat < 0x80 ∧ isAlphanumeric (lowerOne c) = true ∧ isBlank c = false ∧ c ∉ marks := by
  have hall : ∀ key ∈ named, ((spelling key).all fun c ↦ c.toNat < 0x80 ∧
      isAlphanumeric (lowerOne c) = true ∧ isBlank c = false ∧ c ∉ marks) = true := by
    decide +kernel
  exact fun key hkey ↦ List.all_iff_forall_prop.mp (hall key hkey)

/-- The names that are written name their keys. -/
theorem meaning_spelling : ∀ key ∈ named, key.code ∉ modifierKeys →
    Descriptor.meaning ((spelling key).map lowerOne) =
      if key.code = unknown then .unknown else .key key.code := by
  decide +kernel

/-- A key that shares its name with a modifier has no other one. -/
theorem named?_of_mem_modifierKeys : ∀ key ∈ named, key.code ∈ modifierKeys →
    key.short = none ∧ (Modifier.named? key.name).isSome = true := by
  decide +kernel

/-- The names that are read are those of named keys, and found as modifiers in the case of some. -/
theorem mem_spellings {entry : Text × Nat} (h : entry ∈ spellings) :
    ∃ key ∈ named, key.code = entry.2 ∧
      (key.code ∈ modifierKeys → (Modifier.names.lookup entry.1).isSome = true) := by
  obtain ⟨key, hkey, hentry⟩ := List.mem_flatMap.mp h
  have hmem : key ∈ named := (List.mem_filter.mp hkey).1
  have hmodifier := named?_of_mem_modifierKeys key hmem
  rcases List.mem_cons.mp hentry with rfl | hentry
  · exact ⟨key, hmem, rfl, fun hcode ↦ (hmodifier hcode).2⟩
  · rw [Option.mem_toList, Option.map_eq_some_iff] at hentry
    obtain ⟨short, hshort, rfl⟩ := hentry
    refine ⟨key, hmem, rfl, fun hcode ↦ ?_⟩
    rw [(hmodifier hcode).1] at hshort
    exact absurd hshort (by simp)

theorem length_names : (∀ entry ∈ Modifier.names, entry.1.length ≠ 1) ∧
    ∀ entry ∈ Mode.names, entry.1.length ≠ 1 := by
  decide

theorem lookup_singleton {α : Type} {table : List (Text × α)}
    (h : ∀ entry ∈ table, entry.1.length ≠ 1) (c : Char) : table.lookup [c] = none := by
  rw [List.lookup_eq_none_iff]
  intro entry hentry
  rw [bne_iff_ne]
  exact fun heq ↦ h entry hentry (by rw [← heq]; rfl)

/-! ### Items -/

theorem trim_of_blank_free {text : Text} (h : ∀ c ∈ text, isBlank c = false) :
    Text.trim text = text := by
  have hdrop : ∀ l : Text, (∀ c ∈ l, isBlank c = false) → l.dropWhile isBlank = l := by
    intro l hl
    cases l with
    | nil => rfl
    | cons c rest => exact List.dropWhile_cons_of_neg (by simp [hl c List.mem_cons_self])
  rw [Text.trim, Text.trimEnd, hdrop text h, hdrop _ fun c hc ↦ h c (List.mem_reverse.mp hc),
    List.reverse_reverse]

/-- An item is one key at most, unless a comma joins it from several. -/
theorem codes_eq_trim {item : Text} (hcomma : item = [','] ∨ ',' ∉ item) :
    codes item = (codeOf? (Text.trim item)).toList := by
  rcases hcomma with rfl | hcomma
  · rfl
  · have hne : item ≠ [','] := fun heq ↦ hcomma (heq ▸ List.mem_singleton_self _)
    rw [codes, codes?, if_neg hne, Text.splitOn_of_not_mem hcomma, List.mapM_cons, List.mapM_nil]
    cases codeOf? (Text.trim item) <;> rfl

/-- What names no modifier and no mode names a key or nothing. -/
theorem meaning_eq {item : Text} (hmodifier : Modifier.named? item = none)
    (hmode : Mode.named? item = none) (hblank : ∀ c ∈ item, isBlank c = false)
    (hcomma : item = [','] ∨ ',' ∉ item) :
    Descriptor.meaning item = (codeOf? item).elim .unknown .key := by
  rw [Descriptor.meaning, hmodifier, hmode, Descriptor.keyOf, codes_eq_trim hcomma,
    trim_of_blank_free hblank]
  cases codeOf? item <;> rfl

/-- A character in lower case names the key of its upper case. -/
theorem meaning_singleton {c : Char} (hc : Folded c) (hblank : isBlank c = false) :
    Descriptor.meaning [c] = .key (upperOne c).toNat := by
  have hlower : lower [c] = [c] := by
    rw [lower_cons hc.ne_dotted, hc.lowerOne_eq, lowerFrom]
  have hmodifier : Modifier.named? [c] = none := by
    rw [Modifier.named?, hlower, lookup_singleton length_names.1]
  have hmode : Mode.named? [c] = none := by
    rw [Mode.named?, hlower, lookup_singleton length_names.2]
  have hcomma : [c] = [','] ∨ ',' ∉ [c] := by
    rcases eq_or_ne c ',' with rfl | hne
    · exact Or.inl rfl
    · exact Or.inr fun hmem ↦ hne (List.mem_singleton.mp hmem).symm
  rw [meaning_eq hmodifier hmode (by simpa using hblank) hcomma]
  rfl

/-! ### Keys as they are written -/

theorem toNat_lt (c : Char) : c.toNat < 0x110000 := by
  rcases c.valid with h | h
  · exact Nat.lt_trans h (by decide)
  · exact h.2

/-- A written key and the item that it is in a descriptor. -/
structure Spells (code : Int) (name item : Text) : Prop where
  text_eq : text code = .ok name
  lower_append : ∀ rest : Text, (∀ c ∈ rest, c.toNat < 0x80) →
    lower (name ++ rest) = item ++ rest.map lowerOne
  item_eq : Descriptor.IsName item ∨ ∃ c, item = [c]
  apply_eq : Descriptor.apply {} ⟨item, false⟩ = { keyCode := code }
  ne_nil : name ≠ []
  plain : ∀ c ∈ name, isBlank c = false ∧ c ∉ marks

theorem ofCode?_eq_some {code : Int} {key : NamedKey} (h : ofCode? code = some key) :
    key ∈ named ∧ (key.code : Int) = code :=
  ⟨List.mem_of_find?_eq_some h, by simpa using List.find?_some h⟩

/-- The name of a key is the spelling of a named one, a code point, or digits. -/
theorem points_cases {code : Int} {key : Points} (h : points code = .ok key) :
    (∃ found ∈ named, key = Text.points (spelling found)) ∨
      (ofCode? code = none ∧ 0 < code ∧
        ∃ point, CodePoint.ofNat? code.toNat = some point ∧ key = [point]) ∨
      key = Text.points ('0' :: 'x' :: Text.hexOfInt code) := by
  unfold points at h
  split at h
  · next found hfound =>
    exact Or.inl ⟨found, (ofCode?_eq_some hfound).1, (Except.ok.inj h).symm⟩
  · next hnone =>
    split_ifs at h with hrange
    · split at h
      · next point hpoint =>
        exact Or.inr (Or.inl ⟨hnone, hrange.1, point, hpoint, (Except.ok.inj h).symm⟩)
      · cases h
    · exact Or.inr (Or.inr (Except.ok.inj h).symm)

theorem text_eq_ok_iff {code : Int} {key : Text} :
    text code = .ok key ↔ points code = .ok key.points :=
  Points.bind_characters_eq_ok_iff

/-- The written form of a key is the spelling of a named one, a character, or digits. -/
theorem text_cases {code : Int} {key : Text} (h : text code = .ok key) :
    (∃ found ∈ named, key = spelling found) ∨
      (ofCode? code = none ∧ 0 < code ∧ key = [Char.ofNat code.toNat]) ∨
      key = '0' :: 'x' :: Text.hexOfInt code := by
  rcases points_cases (text_eq_ok_iff.mp h) with ⟨found, hfound, heq⟩ |
    ⟨hnone, hpositive, point, hpoint, heq⟩ | heq
  · exact Or.inl ⟨found, hfound, Text.points_inj.mp heq⟩
  · obtain ⟨c, rfl, rfl⟩ := List.map_eq_singleton_iff.mp heq
    exact Or.inr (Or.inl ⟨hnone, hpositive, by rw [CodePoint.eq_ofNat_of_ofNat? hpoint]⟩)
  · exact Or.inr (Or.inr (Text.points_inj.mp heq))

theorem spells_spelling {key : NamedKey} (hkey : key ∈ named) (hcode : key.code ∉ modifierKeys)
    (hof : ofCode? key.code = some key) :
    Spells key.code (spelling key) ((spelling key).map lowerOne) where
  text_eq := by rw [text_eq_ok_iff, points, hof]
  lower_append rest hrest := by
    rw [lower, lowerFrom_ascii, List.map_append]
    intro c hc
    rcases List.mem_append.mp hc with hc | hc
    · exact (mem_spelling key hkey c hc).1
    · exact hrest c hc
  item_eq := by
    refine Or.inl ⟨by simpa using spelling_ne_nil key hkey, fun d hd ↦ ?_⟩
    obtain ⟨c, hc, rfl⟩ := List.mem_map.mp hd
    exact (mem_spelling key hkey c hc).2.1
  apply_eq := by
    rw [Descriptor.apply, meaning_spelling key hkey hcode]
    by_cases hunknown : key.code = unknown
    · rw [if_pos hunknown, hunknown]
    · rw [if_neg hunknown]
  ne_nil := spelling_ne_nil key hkey
  plain c hc := (mem_spelling key hkey c hc).2.2

theorem spells_character {c : Char} (hc : Folded c) (hblank : isBlank c = false)
    (hne : ((upperOne c).toNat : Int) ≠ 0) (hof : ofCode? (upperOne c).toNat = none) :
    Spells (upperOne c).toNat [upperOne c] [lowerOne (upperOne c)] where
  text_eq := by
    have hbound := toNat_lt (upperOne c)
    rw [text_eq_ok_iff, points, hof]
    dsimp only
    rw [if_pos ⟨by omega, by simp only [firstSpecial]; omega⟩, Int.toNat_natCast,
      CodePoint.ofNat?_toNat]
    rfl
  lower_append rest hrest := by
    rw [List.singleton_append, lower_cons (upperOne_ne_dotted hc.ne_dotted), lowerFrom_ascii hrest]
    rfl
  item_eq := Or.inr ⟨_, rfl⟩
  apply_eq := by
    have hfolded := folded_lowerOne (upperOne_ne_dotted hc.ne_dotted)
    have hmeaning := meaning_singleton hfolded (isBlank_lowerOne (isBlank_upperOne hblank))
    rw [upperOne_lowerOne_upperOne hc] at hmeaning
    rw [Descriptor.apply, hmeaning]
  ne_nil := List.cons_ne_nil _ _
  plain d hd := by
    obtain rfl := List.mem_singleton.mp hd
    refine ⟨isBlank_upperOne hblank, fun hmem ↦ ?_⟩
    have hmarks : ∀ d ∈ marks, d.toNat = 0 ∨ (ofCode? d.toNat).isSome = true :=
      List.all_iff_forall_prop.mp (by decide +kernel)
    rcases hmarks _ hmem with hnull | hsome
    · exact hne (congrArg Int.ofNat hnull)
    · rw [hof] at hsome
      exact absurd hsome Bool.false_ne_true

theorem character_not_mem_modifierKeys (c : Char) : c.toNat ∉ modifierKeys := by
  have hall : ∀ code ∈ modifierKeys, 0x110000 ≤ code := by decide
  exact fun hmem ↦ absurd (hall _ hmem) (Nat.not_le_of_lt (toNat_lt c))

/-- Every readable key but that of the null character has a written form that names it again. -/
theorem exists_spells {code : Int} (h : Readable code) (hne : code ≠ 0) :
    ∃ name item, Spells code name item := by
  have hcode : ∀ key ∈ named, (key.code : Int) = code → key.code ∉ modifierKeys := by
    intro key hkey heq hmem
    cases h with
    | named other hother hnot => exact hnot (by rwa [← Int.ofNat_inj.mp heq])
    | character c hc hblank =>
      exact character_not_mem_modifierKeys _ (Int.ofNat_inj.mp heq ▸ hmem)
  cases hof : ofCode? code with
  | some key =>
    obtain ⟨hkey, rfl⟩ := ofCode?_eq_some hof
    exact ⟨_, _, spells_spelling hkey (hcode key hkey rfl) hof⟩
  | none =>
    cases h with
    | named key hkey hnot =>
      have hfind := List.find?_eq_none.mp hof key hkey
      simp at hfind
    | character c hc hblank => exact ⟨_, _, spells_character hc hblank hne hof⟩

/-! ### Keys that descriptors give -/

theorem exists_of_codeOf? {item : Text} {code : Nat} (hmodifier : Modifier.named? item = none)
    (h : codeOf? item = some code) :
    (∃ key ∈ named, key.code ∉ modifierKeys ∧ code = key.code) ∨
      ∃ c ∈ item, code = (upperOne c).toNat := by
  unfold codeOf? at h
  split at h
  · simp at h
  · next c => exact Or.inr ⟨c, List.mem_singleton_self c, (Option.some.inj h).symm⟩
  · obtain ⟨key, hkey, heq, hmodifierKey⟩ := mem_spellings (mem_of_lookup h)
    refine Or.inl ⟨key, hkey, fun hcode ↦ ?_, heq.symm⟩
    have hsome := hmodifierKey hcode
    rw [← Modifier.named?, hmodifier] at hsome
    exact absurd hsome Bool.false_ne_true

/-- The key of a descriptor without blanks is a named one, or that of its first character or of a
letter or number in it. -/
theorem exists_of_decode {descriptor : Text} (h : ∀ c ∈ descriptor, isBlank c = false) :
    (∃ key ∈ named, key.code ∉ modifierKeys ∧
        (Descriptor.decode descriptor {}).value.keyCode = key.code) ∨
      ∃ c ∈ descriptor, (descriptor.head? = some c ∨ isAlphanumeric c = true) ∧
        (Descriptor.decode descriptor {}).value.keyCode = (upperOne c).toNat := by
  rcases Descriptor.keyCode_decode descriptor with hunknown | ⟨item, hmem, code, hmeaning, hcode⟩
  · exact Or.inl ⟨⟨unknown, "Unknown".toList, none⟩, List.mem_cons_self, by decide, hunknown⟩
  · obtain ⟨hsub, hplace⟩ := Descriptor.mem_items hmem
    have hcomma := Descriptor.comma_of_mem_items hmem
    have hnamed : Modifier.named? item.text = none ∧ codeOf? item.text = some code := by
      cases hmodifier : Modifier.named? item.text with
      | some m => simp [Descriptor.meaning, hmodifier] at hmeaning
      | none =>
        cases hmode : Mode.named? item.text with
        | some m => simp [Descriptor.meaning, hmodifier, hmode] at hmeaning
        | none =>
          rw [meaning_eq hmodifier hmode (fun c hc ↦ h c (hsub c hc)) hcomma] at hmeaning
          cases hcodeOf : codeOf? item.text with
          | none => simp [hcodeOf] at hmeaning
          | some found => exact ⟨rfl, by simpa [hcodeOf] using hmeaning⟩
    rw [hcode]
    rcases exists_of_codeOf? hnamed.1 hnamed.2 with ⟨key, hkey, hnot, rfl⟩ | ⟨c, hc, rfl⟩
    · exact Or.inl ⟨key, hkey, hnot, rfl⟩
    · refine Or.inr ⟨c, hsub c hc, ?_, rfl⟩
      rcases hplace with ⟨first, hfirst, hhead⟩ | hall
      · rw [hfirst, List.mem_singleton] at hc
        exact Or.inl (hc ▸ hhead)
      · exact Or.inr (hall c hc)

/-- The key of a descriptor in lower case and without blanks is readable. -/
theorem readable_decode {descriptor : Text} (h : ∀ c ∈ descriptor, Folded c ∧ isBlank c = false) :
    Readable (Descriptor.decode descriptor {}).value.keyCode := by
  rcases exists_of_decode fun c hc ↦ (h c hc).2 with ⟨key, hkey, hnot, heq⟩ | ⟨c, hc, -, heq⟩
  · exact heq ▸ .named key hkey hnot
  · exact heq ▸ .character c (h c hc).1 (h c hc).2

theorem code_ne_zero : ∀ key ∈ named, (key.code : Int) ≠ 0 := by decide +kernel

/-- Only a descriptor that begins with the null character has the key code zero. -/
theorem keyCode_decode_ne_zero {descriptor : Text} (h : ∀ c ∈ descriptor, isBlank c = false)
    (hhead : descriptor.head? ≠ some (Char.ofNat 0)) :
    (Descriptor.decode descriptor {}).value.keyCode ≠ 0 := by
  rcases exists_of_decode h with ⟨key, hkey, -, heq⟩ | ⟨c, -, hplace, heq⟩
  · exact heq ▸ code_ne_zero key hkey
  · have hnull : c ≠ Char.ofNat 0 := by
      rintro rfl
      exact hplace.elim hhead fun hnumber ↦ absurd hnumber (by decide)
    rw [heq]
    intro hzero
    refine upperOne_ne_null hnull ?_
    rw [← Char.ofNat_toNat (upperOne c), Int.ofNat_eq_zero.mp hzero]

/-! ### Keys without a name or a written form -/

theorem code_lt_or_le : ∀ key ∈ named, key.code < 0x110000 ∨ firstSpecial ≤ key.code := by
  decide +kernel

/-- A key code has no name just when it lies behind all code points and in front of the special
keys. -/
theorem points_eq_error_iff {code : Int} {fault : Fault} :
    points code = .error fault ↔ fault = .keyCode ∧ 0x110000 ≤ code ∧ code < firstSpecial := by
  unfold points
  cases hof : ofCode? code with
  | some key =>
    obtain ⟨hkey, rfl⟩ := ofCode?_eq_some hof
    have hrange := code_lt_or_le key hkey
    simp only [reduceCtorEq, false_iff, not_and]
    omega
  | none =>
    dsimp only
    split_ifs with hspecial
    · cases hpoint : CodePoint.ofNat? code.toNat with
      | some point =>
        have hbound : ¬0x110000 ≤ code.toNat := fun hle ↦ by
          rw [CodePoint.ofNat?_eq_none_iff.mpr hle] at hpoint
          cases hpoint
        simp only [reduceCtorEq, false_iff, not_and]
        omega
      | none =>
        have hbound := CodePoint.ofNat?_eq_none_iff.mp hpoint
        rw [Except.error.injEq, eq_comm]
        exact ⟨fun h ↦ ⟨h, by omega, hspecial.2⟩, fun h ↦ h.1⟩
    · simp only [false_iff, not_and]
      omega

/-- A key that can be read has a written form. -/
theorem Readable.exists_text {code : Int} (h : Readable code) : ∃ name, text code = .ok name := by
  by_cases hne : code = 0
  · exact ⟨"0x0".toList, hne ▸ by decide +kernel⟩
  · obtain ⟨name, item, hspells⟩ := exists_spells h hne
    exact ⟨name, hspells.text_eq⟩

/-- The codes whose names are surrogates. -/
def IsSurrogate (code : Int) : Prop := 0xD800 ≤ code ∧ code ≤ 0xDFFF

instance : DecidablePred IsSurrogate := fun _ ↦ inferInstanceAs (Decidable (_ ∧ _))

theorem not_isSurrogate_of_mem_named : ∀ key ∈ named, ¬IsSurrogate key.code := by decide +kernel

theorem IsSurrogate.exists_points {code : Int} (h : IsSurrogate code) :
    ∃ place, points code = .ok [.surrogate place] := by
  have hof : ofCode? code = none := by
    rw [ofCode?, List.find?_eq_none]
    intro key hkey heq
    exact not_isSurrogate_of_mem_named key hkey (decide_eq_true_iff.mp heq ▸ h)
  obtain ⟨hlow, hhigh⟩ := h
  obtain ⟨place, hplace⟩ : ∃ place : Fin 0x800, code.toNat = 0xD800 + place :=
    ⟨⟨code.toNat - 0xD800, by omega⟩, by dsimp only; omega⟩
  have hrange : 0 < code ∧ code < firstSpecial := ⟨by omega, by simp only [firstSpecial]; omega⟩
  refine ⟨place, ?_⟩
  rw [points, hof]
  dsimp only
  rw [if_pos hrange, CodePoint.ofNat?_eq_surrogate_iff.mpr hplace]

end TermKeys.Key
