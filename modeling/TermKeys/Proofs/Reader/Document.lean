import TermKeys.Proofs.Command
import TermKeys.Proofs.Line
import TermKeys.Proofs.Reader.Utf8

/-!
Bindings made of a condition and a result. Both are written into a document, which has a title and
the condition in front of the first line of the result (`linesBy_document`), and which is read as
any other. Whatever the result holds but quotes and line ends, nothing of it gets into the
condition: a text is sent with its blanks brought together (`read_quoted`), and a command comes
through as it is (`read_word`). So the binding is the one that its parts say (`ofParts_meaning`).
-/

set_option autoImplicit false

namespace TermKeys

open Unicode

/-! ### The document -/

/-- What stands behind the colon in the document of a binding. -/
def Binding.resultPart (result : Text) : Text :=
  if (Command.named? result).isSome then result else '"' :: result ++ ['"']

variable {condition result : Text}

/-- Behind the colon stands a quote or a command. -/
theorem exists_resultPart_cons (result : Text) :
    ∃ c rest, Binding.resultPart result = c :: rest ∧ isBlank c = false ∧ c ≠ '#' := by
  unfold Binding.resultPart
  cases hnamed : Command.named? result with
  | none => exact ⟨'"', result ++ ['"'], rfl, by decide, by decide⟩
  | some command =>
    obtain ⟨hne, hword⟩ := Command.isWordChar_of_named? hnamed
    obtain ⟨c, rest, rfl⟩ := List.exists_cons_of_ne_nil hne
    have hc := hword c List.mem_cons_self
    refine ⟨c, rest, rfl, isBlank_of_isWordChar hc, fun heq ↦ ?_⟩
    rw [heq] at hc
    exact absurd hc (by decide +kernel)

/-- A result without a line end stays on one line. -/
theorem linesBy_resultPart (hresult : '\n' ∉ result) :
    Text.linesBy '\n' (Binding.resultPart result) = [Binding.resultPart result] := by
  obtain ⟨c, rest, hpart, -⟩ := exists_resultPart_cons result
  refine Text.linesBy_of_not_mem (hpart ▸ List.cons_ne_nil c rest) ?_
  unfold Binding.resultPart
  split <;> simp [hresult]

variable {first : Text} {later : List Text}

/-- The document of a binding has a line with a title, and the condition stands in front of the
first line of the result. -/
theorem linesBy_document (hcondition : '\n' ∉ condition)
    (hlines : Text.linesBy '\n' (Binding.resultPart result) = first :: later) :
    Text.linesBy '\n' (Binding.document condition result) =
      "keyboard \"temporary\"\n".toList ::
        ("key ".toList ++ condition ++ " : ".toList ++ first) :: later := by
  have hdocument : Binding.document condition result =
      "keyboard \"temporary\"".toList ++
        '\n' :: ("key ".toList ++ condition ++ " : ".toList ++ Binding.resultPart result) := by
    have hfront : "keyboard \"temporary\"\nkey ".toList =
        "keyboard \"temporary\"".toList ++ '\n' :: "key ".toList := rfl
    unfold Binding.document
    dsimp only
    rw [hfront, ← Binding.resultPart]
    simp only [List.append_assoc, List.cons_append]
  have hfree : '\n' ∉ "key ".toList ++ condition ++ " : ".toList := by simp [hcondition]
  have htitle : '\n' ∉ "keyboard \"temporary\"".toList := by decide
  rw [hdocument, Text.linesBy_append_terminator htitle,
    Text.linesBy_append_of_not_mem (by simp) hfree, hlines]
  rfl

/-- The binding of a condition and a result is the first one of their lines. -/
theorem value_ofParts_of_lines {settings : Settings} (h : settings.Utf8)
    (hcondition : '\n' ∉ condition)
    (hlines : Text.linesBy '\n' (Binding.resultPart result) = first :: later) :
    (Binding.ofParts condition result settings).value =
      .ok ((Reader.bindingsOf
        (("key ".toList ++ condition ++ " : ".toList ++ first) :: later)).headD Binding.null) := by
  have htitle : Reader.bindingOf? "keyboard \"temporary\"\n".toList = none := by decide +kernel
  rw [Reader.value_ofParts h, linesBy_document hcondition hlines, Reader.bindingsOf,
    List.filterMap_cons_none htitle, ← Reader.bindingsOf]

/-- If the line of the condition is a key line, it is the binding. -/
theorem value_ofParts_of_read {settings : Settings} (h : settings.Utf8)
    (hcondition : '\n' ∉ condition) (hresult : '\n' ∉ result) {descriptor : Text} {action : Action}
    (hread : Line.read ("key ".toList ++ condition ++ " : ".toList ++ Binding.resultPart result) =
      .key descriptor action) :
    (Binding.ofParts condition result settings).value =
      .ok (Reader.bindingFor descriptor action) := by
  rw [value_ofParts_of_lines h hcondition (linesBy_resultPart hresult), Reader.bindingsOf,
    List.filterMap_cons, Reader.bindingOf?, hread]
  rfl

/-! ### The line of the binding -/

namespace Line

/-- A text between quotes is sent with one space for every run of blanks. No number sign in it
begins a comment, for one quote stands behind it. -/
theorem read_quoted (hcondition : IsCondition condition) (hresult : '"' ∉ result) :
    read ("key ".toList ++ condition ++ " : ".toList ++ ('"' :: result ++ ['"'])) =
      .key (condition.filter fun c ↦ !isBlank c) (.send (Text.spaced result)) := by
  have hquote : isBlank '"' = false := by decide
  have hodd : ∀ after, '#' :: after <:+ '"' :: result → (after ++ ['"']).count '"' % 2 = 1 := by
    intro after hsuffix
    have hafter : after <:+ result := by
      rcases List.suffix_cons_iff.mp hsuffix with heq | hlater
      · exact absurd (List.cons.inj heq).1 (by decide)
      · exact (List.suffix_cons _ after).trans hlater
    have hfree : '"' ∉ after := fun hmem ↦ hresult (hafter.subset hmem)
    rw [List.count_append, List.count_eq_zero_of_not_mem hfree]
    rfl
  have hend : dropComment ['"'] = ['"'] := by decide
  have hkept : dropComment ('"' :: result ++ ['"']) = '"' :: result ++ ['"'] := by
    rw [dropComment_append hodd, hend]
  refine read_keyLine hcondition ?_ ?_
  · rw [hkept]
    exact Text.words_ne_nil List.mem_cons_self hquote
  · rw [hkept, Text.plain_cons_append hquote hquote, Text.plain_singleton hquote]
    exact action?_send List.not_mem_nil _

/-- A command word stays as it is. -/
theorem read_word (hcondition : IsCondition condition) {word : Text} (hne : word ≠ [])
    (hword : ∀ c ∈ word, isWordChar c = true) :
    read ("key ".toList ++ condition ++ " : ".toList ++ word) =
      .key (condition.filter fun c ↦ !isBlank c) (.command word) := by
  have hhash : '#' ∉ word := fun hmem ↦ absurd (hword _ hmem) (by decide +kernel)
  have hkept : dropComment word = word := by
    have happend := dropComment_append_of_not_mem hhash []
    rwa [List.append_nil, dropComment, List.append_nil] at happend
  have hwords : Text.words word = [word] :=
    Text.words_of_blank_free hne fun c hc ↦ isBlank_of_isWordChar (hword c hc)
  refine read_keyLine hcondition ?_ ?_
  · rw [hkept, hwords]
    exact List.cons_ne_nil _ _
  · rw [hkept, Text.plain, hwords, List.intercalate_singleton]
    exact action?_word hne hword

end Line

/-! ### The binding -/

/-- A condition, whatever blanks and symbols are in it but quotes, number signs, colons and line
ends, and a result, whatever is in it but quotes and line ends, make a binding. Its condition is
what the condition says in lower case and without its blanks. A result that has the lower case of a
command's spelling is that command; any other is sent in UTF-8, with one space for every run of
blanks. -/
theorem Binding.ofParts_meaning (homes : Homes) (hcondition : Line.IsCondition condition)
    (hline : '\n' ∉ condition) (hquote : '"' ∉ result) (hresult : '\n' ∉ result) :
    ∃ binding, (Binding.ofParts condition result (Settings.usual homes)).value = .ok binding ∧
      binding.toCondition =
        (Descriptor.decode (lower (condition.filter fun c ↦ !isBlank c)) {}).value ∧
      (∀ (command : Command) (spelling : Text), command.text? = some spelling →
        lower result = lower spelling → binding.command = command ∧ binding.text = []) ∧
      ((∀ (command : Command) (spelling : Text), command.text? = some spelling →
          lower result ≠ lower spelling) →
        binding.command = .none ∧ binding.text = Utf8.encode (Text.spaced result)) := by
  have hutf8 := Settings.utf8_usual homes
  cases hnamed : Command.named? result with
  | some named =>
    obtain ⟨hne, hword⟩ := Command.isWordChar_of_named? hnamed
    have hpart : resultPart result = result := by
      rw [resultPart, hnamed]
      rfl
    have hread := Line.read_word hcondition hne hword
    rw [← hpart] at hread
    refine ⟨_, value_ofParts_of_read hutf8 hline hresult hread, rfl,
      fun command spelling hspelling hlower ↦ ⟨?_, rfl⟩, fun hnone ↦ ?_⟩
    · have hcommand := Command.named?_eq_some_iff.mpr ⟨spelling, hspelling, hlower⟩
      dsimp only [Reader.bindingFor]
      rw [hpart, hcommand]
      rfl
    · obtain ⟨spelling, hspelling, hlower⟩ := Command.named?_eq_some_iff.mp hnamed
      exact absurd hlower (hnone named spelling hspelling)
  | none =>
    have hpart : resultPart result = '"' :: result ++ ['"'] := by
      rw [resultPart, hnamed]
      rfl
    have hread := Line.read_quoted hcondition hquote
    rw [← hpart] at hread
    refine ⟨_, value_ofParts_of_read hutf8 hline hresult hread, rfl,
      fun command spelling hspelling hlower ↦ ?_, fun _ ↦ ⟨rfl, rfl⟩⟩
    have hcommand := Command.named?_eq_some_iff.mpr ⟨spelling, hspelling, hlower⟩
    rw [hnamed] at hcommand
    exact nomatch hcommand

/-- A text with blanks of several kinds, a number sign and a colon, and a command in other letters
than its spelling. -/
theorem Binding.ofParts_meaning_blanks :
    (∃ binding, (Binding.ofParts "Up\t+ Shift".toList " a # b:\u00A0\u2003c ".toList
        (Settings.usual ⟨"/root".toList, []⟩)).value = .ok binding ∧
      binding.toCondition = ⟨0x1000013, 0x2000000, 0x2000000, 0, 0⟩ ∧
      binding.command = .none ∧ binding.text = Utf8.encode " a # b: c ".toList) ∧
    ∃ binding, (Binding.ofParts " - é".toList "ScrollPAGEup".toList
        (Settings.usual ⟨"/root".toList, []⟩)).value = .ok binding ∧
      binding.toCondition = ⟨0xC9, 0, 0, 0, 0⟩ ∧
      binding.command = .scrollPageUp ∧ binding.text = [] := by
  obtain ⟨sent, hsent, hsentCondition, -, hsentText⟩ :=
    @ofParts_meaning "Up\t+ Shift".toList " a # b:\u00A0\u2003c ".toList ⟨"/root".toList, []⟩
      ⟨⟨'U', by decide, by decide⟩, by decide, by decide, by decide⟩ (by decide) (by decide)
      (by decide)
  obtain ⟨done, hdone, hdoneCondition, hdoneCommand, -⟩ :=
    @ofParts_meaning " - é".toList "ScrollPAGEup".toList ⟨"/root".toList, []⟩
      ⟨⟨'-', by decide, by decide⟩, by decide, by decide, by decide⟩ (by decide) (by decide)
      (by decide)
  have hnone : Command.named? " a # b:\u00A0\u2003c ".toList = none := by decide +kernel
  obtain ⟨hcommand, htext⟩ := hsentText fun command spelling hspelling hlower ↦ by
    have hnamed := Command.named?_eq_some_iff.mpr ⟨spelling, hspelling, hlower⟩
    rw [hnone] at hnamed
    exact nomatch hnamed
  refine ⟨⟨sent, hsent, hsentCondition.trans (by decide +kernel), hcommand,
    htext.trans (by decide +kernel)⟩, done, hdone, hdoneCondition.trans (by decide +kernel), ?_⟩
  exact hdoneCommand .scrollPageUp "scrollPageUp".toList rfl (by decide +kernel)

end TermKeys
