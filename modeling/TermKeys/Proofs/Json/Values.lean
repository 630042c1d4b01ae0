import TermKeys.Proofs.Json.Strings

/-!
Values in JSON. A value that is made of texts alone, with lists and objects nested to any depth that
reading allows, is read back from what any style writes (`parse_print`). The parser is followed
through the written text one item and one field at a time, and what is left of the text always pays
for the steps still to come.
-/

set_option autoImplicit false

namespace TermKeys.Json

/-- A value made of texts, lists and objects, so many containers deep at most. No object has two
fields of one name. -/
inductive Textual : Nat → Json → Prop
  | string (depth : Nat) (text : Text) : Textual depth (.string text)
  | list {depth : Nat} {items : List Json} (h : ∀ item ∈ items, Textual depth item) :
      Textual (depth + 1) (.list items)
  | object {depth : Nat} {fields : List (Text × Json)} (hnames : (fields.map Prod.fst).Nodup)
      (h : ∀ field ∈ fields, Textual depth field.2) : Textual (depth + 1) (.object fields)

variable {style : Style} {levels fuel : Nat} {item : Json} {text after rest : Text}

/-! ### One step of the parser -/

theorem items_last (hvalue : value fuel levels text = .ok (item, after))
    (hclose : skipSpace after = ']' :: rest) :
    items (fuel + 1) levels text = .ok ([item], rest) := by
  rw [items, hvalue]
  simp only [bind, Except.bind, hclose]
  rfl

theorem items_more {others : List Json} {more : Text}
    (hvalue : value fuel levels text = .ok (item, after))
    (hcomma : skipSpace after = ',' :: more)
    (hothers : items fuel levels (skipSpace more) = .ok (others, rest)) :
    items (fuel + 1) levels text = .ok (item :: others, rest) := by
  rw [items, hvalue]
  simp only [bind, Except.bind, hcomma, hothers]
  rfl

theorem fields_last {before : List (Text × Json)} {name colon more : Text}
    (hname : string? text = some (name, colon)) (hcolon : skipSpace colon = ':' :: more)
    (hvalue : value fuel levels (skipSpace more) = .ok (item, after))
    (hclose : skipSpace after = '\x7d' :: rest) :
    fields (fuel + 1) levels before ('"' :: text) = .ok (setField name item before, rest) := by
  rw [fields, hname]
  simp only [bind, Except.bind, ifRead, hcolon, hvalue, hclose]
  rfl

theorem fields_more {before result : List (Text × Json)} {name colon more next : Text}
    (hname : string? text = some (name, colon)) (hcolon : skipSpace colon = ':' :: more)
    (hvalue : value fuel levels (skipSpace more) = .ok (item, after))
    (hcomma : skipSpace after = ',' :: next)
    (hothers : fields fuel levels (setField name item before) (skipSpace next) =
      .ok (result, rest)) :
    fields (fuel + 1) levels before ('"' :: text) = .ok (result, rest) := by
  rw [fields, hname]
  simp only [bind, Except.bind, ifRead, hcolon, hvalue, hcomma]
  exact hothers

theorem value_string {name : Text} (h : string? text = some (name, rest)) :
    value (fuel + 1) levels ('"' :: text) = .ok (.string name, rest) := by
  cases levels <;> simp [value, h, ifRead]

theorem value_list_nil :
    value (fuel + 1) (levels + 1) ('[' :: ']' :: rest) = .ok (.list [], rest) := by
  simp [value, skipSpace, isSpace]

theorem value_object_nil :
    value (fuel + 1) (levels + 1) ('\x7b' :: '\x7d' :: rest) = .ok (.object [], rest) := by
  simp [value, skipSpace, isSpace]

theorem value_list {members : List Json} (hopen : ∀ more, skipSpace text ≠ ']' :: more)
    (h : items fuel levels (skipSpace text) = .ok (members, rest)) :
    value (fuel + 1) (levels + 1) ('[' :: text) = .ok (.list members, rest) := by
  rw [value.eq_def]
  simp only [Char.reduceEq, ↓reduceIte]
  rw [h]
  rfl

theorem value_object {members : List (Text × Json)}
    (hopen : ∀ more, skipSpace text ≠ '\x7d' :: more)
    (h : fields fuel levels [] (skipSpace text) = .ok (members, rest)) :
    value (fuel + 1) (levels + 1) ('\x7b' :: text) = .ok (.object members, rest) := by
  rw [value.eq_def]
  simp only [Char.reduceEq, ↓reduceIte]
  rw [h]
  rfl

/-! ### Blanks in written text -/

theorem skipSpace_cons {c : Char} (h : isSpace c = false) (text : Text) :
    skipSpace (c :: text) = c :: text := by
  simp [skipSpace, h]

theorem skipSpace_lineBreak (style : Style) (level : Nat) (text : Text) :
    skipSpace (lineBreak style level ++ text) = skipSpace text := by
  have hspaces : ∀ c ∈ lineBreak style level, isSpace c = true := by
    unfold lineBreak
    cases style.indent with
    | none => exact fun c hc ↦ absurd hc List.not_mem_nil
    | some width =>
      intro c hc
      rcases List.mem_cons.mp hc with rfl | hc
      · rfl
      · rw [List.eq_of_mem_replicate hc]
        rfl
  exact List.dropWhile_append_of_pos hspaces

/-- A blank may stand between the colon of a field and its value. -/
theorem exists_colon (style : Style) :
    ∃ gap, colon style = ':' :: gap ∧ ∀ text, skipSpace (gap ++ text) = skipSpace text := by
  unfold colon
  split_ifs
  · exact ⟨[' '], rfl, fun _ ↦ rfl⟩
  · exact ⟨[], rfl, fun _ ↦ rfl⟩

/-- What a value made of texts is written with in front. -/
theorem Textual.exists_write {depth : Nat} {value : Json} (h : Textual depth value) (style : Style)
    (level : Nat) : ∃ c more, write style level value = c :: more ∧
      isSpace c = false ∧ c ≠ ']' ∧ c ≠ '\x7d' := by
  cases h with
  | string => exact ⟨'"', _, rfl, by decide⟩
  | @list _ items =>
    cases items with
    | nil => exact ⟨'[', _, rfl, by decide⟩
    | cons => exact ⟨'[', _, by simp only [write, List.cons_append]; rfl, by decide⟩
  | @object _ fields =>
    cases fields with
    | nil => exact ⟨'\x7b', _, rfl, by decide⟩
    | cons => exact ⟨'\x7b', _, by simp only [write, List.cons_append]; rfl, by decide⟩

theorem Textual.skipSpace_write {depth : Nat} {value : Json} (h : Textual depth value)
    (style : Style) (level : Nat) (text : Text) :
    skipSpace (write style level value ++ text) = write style level value ++ text := by
  obtain ⟨c, more, hwrite, hspace, -⟩ := h.exists_write style level
  rw [hwrite, List.cons_append, skipSpace_cons hspace]

theorem setField_of_not_mem {name : Text} {fields : List (Text × Json)}
    (h : name ∉ fields.map Prod.fst) (value : Json) :
    setField name value fields = fields ++ [(name, value)] := by
  induction fields with
  | nil => rfl
  | cons field rest ih =>
    rw [List.map_cons, List.mem_cons, not_or] at h
    rw [setField, if_neg (Ne.symm h.1), ih h.2]
    rfl

/-! ### Reading what was written -/

/-- Whether a value is read back from its written form, at any level and in front of anything, with
so many containers still to open. -/
def ReadsBack (style : Style) (levels : Nat) (item : Json) : Prop :=
  ∀ level fuel rest, 2 * (write style level item).length ≤ fuel →
    value fuel levels (write style level item ++ rest) = .ok (item, rest)

theorem writeItems_cons (style : Style) (level : Nat) (item : Json) (others : List Json)
    (text : Text) :
    writeItems style level (item :: others) ++ text =
      ',' :: (lineBreak style level ++
        (write style level item ++ (writeItems style level others ++ text))) := by
  simp [writeItems]

theorem writeFields_cons (style : Style) (level : Nat) (name : Text) (item : Json)
    (others : List (Text × Json)) (text : Text) :
    writeFields style level ((name, item) :: others) ++ text =
      ',' :: (lineBreak style level ++ (writeText style name ++ (colon style ++
        (write style level item ++ (writeFields style level others ++ text))))) := by
  simp [writeFields]

/-- The items of a list are read back one after the other. -/
theorem items_write {depth : Nat} {item : Json} {others : List Json}
    (htextual : ∀ v ∈ item :: others, Textual depth v)
    (hback : ∀ v ∈ item :: others, ReadsBack style levels v) (outer level : Nat)
    (hfuel : 2 * (write style level item ++ writeItems style level others).length + 1 ≤ fuel)
    (rest : Text) :
    items fuel levels (write style level item ++
        (writeItems style level others ++ (lineBreak style outer ++ ']' :: rest))) =
      .ok (item :: others, rest) := by
  induction others generalizing item fuel with
  | nil =>
    obtain ⟨fuel, rfl⟩ := Nat.exists_eq_add_of_le' (Nat.le_of_add_left_le hfuel)
    rw [List.length_append] at hfuel
    have hitem := hback item List.mem_cons_self level fuel
      (writeItems style level [] ++ (lineBreak style outer ++ ']' :: rest)) (by omega)
    refine items_last hitem ?_
    rw [writeItems, List.nil_append, skipSpace_lineBreak, skipSpace_cons rfl]
  | cons second others ih =>
    obtain ⟨fuel, rfl⟩ := Nat.exists_eq_add_of_le' (Nat.le_of_add_left_le hfuel)
    have hlength := congrArg List.length (writeItems_cons style level second others [])
    simp only [List.length_append, List.length_cons, List.append_nil] at hfuel hlength
    have hitem := hback item List.mem_cons_self level fuel
      (writeItems style level (second :: others) ++ (lineBreak style outer ++ ']' :: rest))
      (by omega)
    have hrest : 2 * (write style level second ++ writeItems style level others).length + 1 ≤
        fuel := by
      rw [List.length_append]
      omega
    have hothers := ih (fun v hv ↦ htextual v (List.mem_cons_of_mem _ hv))
      (fun v hv ↦ hback v (List.mem_cons_of_mem _ hv)) hrest
    refine items_more hitem (by rw [writeItems_cons]; exact skipSpace_cons rfl _) ?_
    rw [skipSpace_lineBreak, (htextual second (by simp)).skipSpace_write]
    exact hothers

/-- What the parser finds of a written field: its name, its colon and its value. -/
theorem exists_field {depth level : Nat} (htextual : Textual depth item)
    (hback : ReadsBack style levels item) (hfuel : 2 * (write style level item).length ≤ fuel)
    (name follow : Text) :
    ∃ text after more,
      writeText style name ++ (colon style ++ (write style level item ++ follow)) = '"' :: text ∧
      string? text = some (name, after) ∧ skipSpace after = ':' :: more ∧
      value fuel levels (skipSpace more) = .ok (item, follow) := by
  obtain ⟨gap, hcolon, hgap⟩ := exists_colon style
  have htext : writeText style name ++ (colon style ++ (write style level item ++ follow)) =
      '"' :: (name.flatMap (writeChar style) ++
        '"' :: ':' :: (gap ++ (write style level item ++ follow))) := by
    simp [writeText, hcolon]
  refine ⟨_, _, _, htext, string?_flatMap_writeChar style name _, skipSpace_cons rfl _, ?_⟩
  rw [hgap, htextual.skipSpace_write]
  exact hback level fuel follow hfuel

theorem not_mem_of_nodup {before others : List (Text × Json)} {name : Text} {item : Json}
    (h : ((before ++ (name, item) :: others).map Prod.fst).Nodup) : name ∉ before.map Prod.fst := by
  rw [List.map_append, List.nodup_append] at h
  exact fun hmem ↦ h.2.2 name hmem name List.mem_cons_self rfl

/-- The fields of an object are read back one after the other, behind those that were read before
them. -/
theorem fields_write {depth : Nat} {before : List (Text × Json)} {name : Text} {item : Json}
    {others : List (Text × Json)}
    (hnames : ((before ++ (name, item) :: others).map Prod.fst).Nodup)
    (htextual : ∀ field ∈ (name, item) :: others, Textual depth field.2)
    (hback : ∀ field ∈ (name, item) :: others, ReadsBack style levels field.2) (outer level : Nat)
    (hfuel : 2 * (write style level item ++ writeFields style level others).length + 1 ≤ fuel)
    (rest : Text) :
    fields fuel levels before (writeText style name ++ (colon style ++ (write style level item ++
        (writeFields style level others ++ (lineBreak style outer ++ '\x7d' :: rest))))) =
      .ok (before ++ (name, item) :: others, rest) := by
  induction others generalizing before name item fuel with
  | nil =>
    obtain ⟨fuel, rfl⟩ := Nat.exists_eq_add_of_le' (Nat.le_of_add_left_le hfuel)
    rw [List.length_append] at hfuel
    have hfirst : 2 * (write style level item).length ≤ fuel := by omega
    obtain ⟨text, after, more, htext, hname, hcolon, hvalue⟩ :=
      exists_field (htextual _ List.mem_cons_self) (hback _ List.mem_cons_self) hfirst name
        (writeFields style level [] ++ (lineBreak style outer ++ '\x7d' :: rest))
    have hclose : skipSpace (writeFields style level [] ++ (lineBreak style outer ++
        '\x7d' :: rest)) = '\x7d' :: rest := by
      rw [writeFields, List.nil_append, skipSpace_lineBreak, skipSpace_cons rfl]
    rw [htext, fields_last hname hcolon hvalue hclose,
      setField_of_not_mem (not_mem_of_nodup hnames)]
  | cons second others ih =>
    obtain ⟨next, second⟩ := second
    obtain ⟨fuel, rfl⟩ := Nat.exists_eq_add_of_le' (Nat.le_of_add_left_le hfuel)
    have hlength := congrArg List.length
      (writeFields_cons style level next second others [])
    simp only [List.length_append, List.length_cons, List.append_nil] at hfuel hlength
    have hfirst : 2 * (write style level item).length ≤ fuel := by omega
    have hrest : 2 * (write style level second ++ writeFields style level others).length + 1 ≤
        fuel := by
      rw [List.length_append]
      omega
    obtain ⟨text, after, more, htext, hname, hcolon, hvalue⟩ :=
      exists_field (htextual _ List.mem_cons_self) (hback _ List.mem_cons_self) hfirst name
        (writeFields style level ((next, second) :: others) ++
          (lineBreak style outer ++ '\x7d' :: rest))
    have hnew := not_mem_of_nodup hnames
    rw [List.append_cons] at hnames
    have hothers := ih hnames (fun field hfield ↦ htextual field (List.mem_cons_of_mem _ hfield))
      (fun field hfield ↦ hback field (List.mem_cons_of_mem _ hfield)) hrest
    rw [List.append_assoc, List.singleton_append] at hothers
    rw [htext]
    refine fields_more hname hcolon hvalue
      (by rw [writeFields_cons]; exact skipSpace_cons rfl _) ?_
    rw [skipSpace_lineBreak, setField_of_not_mem hnew]
    exact hothers

theorem write_list_cons (style : Style) (level : Nat) (item : Json) (others : List Json)
    (text : Text) :
    write style level (.list (item :: others)) ++ text =
      '[' :: (lineBreak style (level + 1) ++ (write style (level + 1) item ++
        (writeItems style (level + 1) others ++ (lineBreak style level ++ ']' :: text)))) := by
  simp [write]

theorem write_object_cons (style : Style) (level : Nat) (name : Text) (item : Json)
    (others : List (Text × Json)) (text : Text) :
    write style level (.object ((name, item) :: others)) ++ text =
      '\x7b' :: (lineBreak style (level + 1) ++ (writeText style name ++ (colon style ++
        (write style (level + 1) item ++ (writeFields style (level + 1) others ++
          (lineBreak style level ++ '\x7d' :: text)))))) := by
  simp [write]

/-- A value made of texts is read back wherever its containers may be opened. -/
theorem Textual.readsBack {depth : Nat} {value : Json} (h : Textual depth value)
    (style : Style) (hdepth : depth ≤ levels) : ReadsBack style levels value := by
  induction h generalizing levels with
  | string depth text =>
    intro level fuel rest hfuel
    rw [write, writeText, List.length_append, List.length_singleton] at hfuel
    obtain ⟨fuel, rfl⟩ := Nat.exists_eq_add_of_le' (show 1 ≤ fuel by omega)
    have htext : write style level (.string text) ++ rest =
        '"' :: (text.flatMap (writeChar style) ++ '"' :: rest) := by
      simp [write, writeText]
    rw [htext]
    exact value_string (string?_flatMap_writeChar style text rest)
  | @list depth members htextual ih =>
    intro level fuel rest hfuel
    obtain ⟨levels, rfl⟩ := Nat.exists_eq_add_of_le' (Nat.le_of_add_left_le hdepth)
    cases members with
    | nil =>
      have hfuel : 1 ≤ fuel := Nat.le_of_add_left_le hfuel
      obtain ⟨fuel, rfl⟩ := Nat.exists_eq_add_of_le' hfuel
      exact value_list_nil
    | cons item others =>
      have hlength := congrArg List.length (write_list_cons style level item others [])
      simp only [List.length_append, List.length_cons, List.append_nil] at hlength
      obtain ⟨fuel, rfl⟩ := Nat.exists_eq_add_of_le' (show 1 ≤ fuel by omega)
      have hinner : 2 * (write style (level + 1) item ++
          writeItems style (level + 1) others).length + 1 ≤ fuel := by
        rw [List.length_append]
        omega
      have hitems := items_write htextual
        (fun v hv ↦ ih v hv (Nat.le_of_succ_le_succ hdepth)) level (level + 1) hinner rest
      have hitem := htextual item List.mem_cons_self
      obtain ⟨c, more, hwrite, -, hbracket, -⟩ := hitem.exists_write style (level + 1)
      rw [write_list_cons]
      refine value_list ?_ ?_
      all_goals rw [skipSpace_lineBreak, hitem.skipSpace_write]
      · intro tail htail
        rw [hwrite, List.cons_append] at htail
        exact hbracket (List.cons.inj htail).1
      · exact hitems
  | @object depth members hnames htextual ih =>
    intro level fuel rest hfuel
    obtain ⟨levels, rfl⟩ := Nat.exists_eq_add_of_le' (Nat.le_of_add_left_le hdepth)
    cases members with
    | nil =>
      have hfuel : 1 ≤ fuel := Nat.le_of_add_left_le hfuel
      obtain ⟨fuel, rfl⟩ := Nat.exists_eq_add_of_le' hfuel
      exact value_object_nil
    | cons field others =>
      obtain ⟨name, item⟩ := field
      have hlength := congrArg List.length
        (write_object_cons style level name item others [])
      simp only [List.length_append, List.length_cons, List.append_nil] at hlength
      obtain ⟨fuel, rfl⟩ := Nat.exists_eq_add_of_le' (show 1 ≤ fuel by omega)
      have hinner : 2 * (write style (level + 1) item ++
          writeFields style (level + 1) others).length + 1 ≤ fuel := by
        rw [List.length_append]
        omega
      rw [← List.nil_append ((name, item) :: others)] at hnames
      have hfields := fields_write hnames htextual
        (fun field hfield ↦ ih field hfield (Nat.le_of_succ_le_succ hdepth)) level (level + 1)
        hinner rest
      rw [write_object_cons]
      refine value_object ?_ ?_
      all_goals rw [skipSpace_lineBreak]
      · intro tail htail
        exact absurd (List.cons.inj htail).1 (by decide)
      · exact hfields

/-- A document made of texts is read back as it was written. -/
theorem parse_print {depth levels : Nat} {document : Json} (h : Textual depth document)
    (style : Style) (hdepth : depth ≤ levels) :
    parse levels (print style document) = .ok document := by
  have hback := h.readsBack style hdepth 0 (2 * (print style document).length + 2) []
    (Nat.le_add_right _ 2)
  have hspace := h.skipSpace_write style 0 []
  rw [List.append_nil, ← print] at hback hspace
  rw [parse, hspace, hback]
  rfl

end TermKeys.Json
