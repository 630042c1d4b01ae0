import TermKeys.Proofs.Key
import TermKeys.Proofs.Line.Separator
import TermKeys.Proofs.Reader.Document

/-!
Bindings made of a result alone. Behind a condition of blanks the colon comes first
(`read_blank_condition`), and a key line needs a character in front of its colon. So that colon is
taken for the beginning of a descriptor, and the line is a key line just if its result holds one
more colon with an action behind it. Then the binding is one of a key, be it that of the colon
(`exists_bindingOf?_blank_condition`); else it is the first one of the further lines of the result,
if there are any. It stands for none if there is neither (`ofParts_eq_null_iff`). A text with a
colon may thus trigger a command (`ofParts_ne_null`).
-/

set_option autoImplicit false

namespace TermKeys

open Unicode

namespace Line

/-! ### Colons in front of actions -/

variable {text : Text}

/-- Whether one of the colons of a text has an action behind it. -/
def HoldsAction (text : Text) : Prop :=
  ∃ place, text[place]? = some ':' ∧ BeginsAction (behind text place)

theorem splitAction?_eq_none_iff : splitAction? text = none ↔ ¬ HoldsAction text := by
  constructor
  · rintro hnone ⟨place, hcolon, hbegins⟩
    exact (action?_eq_none_iff _).mp (action?_of_splitAction? hnone hcolon) hbegins
  · intro hnot
    cases hsplit : splitAction? text with
    | none => rfl
    | some parts =>
      obtain ⟨before, action⟩ := parts
      obtain ⟨-, hcolon, haction, -⟩ := place_of_splitAction? hsplit
      refine absurd ⟨before.length, hcolon, ?_⟩ hnot
      by_contra hbegins
      exact nomatch ((action?_eq_none_iff _).mpr hbegins).symm.trans haction

theorem holdsAction_space_cons : HoldsAction (' ' :: text) ↔ HoldsAction text := by
  constructor
  · rintro ⟨place, hcolon, hbegins⟩
    cases place with
    | zero => exact absurd (Option.some.inj hcolon) (by decide)
    | succ place => exact ⟨place, hcolon, hbegins⟩
  · rintro ⟨place, hcolon, hbegins⟩
    exact ⟨place + 1, hcolon, hbegins⟩

theorem not_holdsAction_of_not_mem (h : ':' ∉ text) : ¬ HoldsAction text := fun ⟨_, hcolon, _⟩ ↦
  h (List.mem_of_getElem? hcolon)

/-- A line without a colon is no key line. -/
theorem colon_mem_of_read {line descriptor : Text} {action : Action}
    (h : read line = .key descriptor action) : ':' ∈ line := by
  unfold read at h
  split at h
  · exact nomatch h
  · obtain ⟨c, rest, before, htext, hsplit, -⟩ := ofPlain_eq_key h
    obtain ⟨after, rfl, -⟩ := splitAction?_eq_some hsplit
    refine dropComment_subset line ((Text.mem_plain_iff (by decide)).mp ?_)
    rw [htext]
    simp

/-! ### Lines without a condition -/

variable {condition rest : Text}

/-- A condition of blanks is no part of what is read, so the colon comes where the descriptor is to
begin. -/
theorem read_blank_condition (hblank : ∀ c ∈ condition, isBlank c = true)
    (hrest : Text.words (dropComment rest) ≠ []) :
    read ("key ".toList ++ condition ++ " : ".toList ++ rest) =
      ofPlain (keyWord ++ ':' :: ' ' :: Text.plain (dropComment rest)) := by
  have hhash : '#' ∉ condition := fun hmem ↦ absurd (hblank _ hmem) (by decide)
  have hcolon : ':' ∈ condition ++ (" : ".toList ++ dropComment rest) := by simp
  have hplain : Text.plain (dropComment ("key ".toList ++ condition ++ " : ".toList ++ rest)) =
      keyWord ++ ':' :: ' ' :: Text.plain (dropComment rest) := by
    rw [dropComment_keyLine hhash,
      plain_key_append (Text.words_ne_nil hcolon (by decide)),
      Text.plain_append_of_blank hblank, plain_colon_append hrest]
  have hwords : Text.words (dropComment ("key ".toList ++ condition ++ " : ".toList ++ rest)) ≠ [] :=
    fun hnil ↦ by
      rw [Text.plain, hnil] at hplain
      exact absurd hplain.symm (List.cons_ne_nil _ _)
  rw [read_of_words hwords, hplain]

end Line

namespace Reader

variable {condition rest : Text}

theorem bindingOf?_blank_condition_of_not (hblank : ∀ c ∈ condition, isBlank c = true)
    (hrest : Text.words (Line.dropComment rest) ≠ [])
    (h : ¬ Line.HoldsAction (Text.plain (Line.dropComment rest))) :
    bindingOf? ("key ".toList ++ condition ++ " : ".toList ++ rest) = none := by
  have hnone := Line.splitAction?_eq_none_iff.mpr (mt Line.holdsAction_space_cons.mp h)
  rw [bindingOf?, Line.read_blank_condition hblank hrest, Line.ofPlain_keyWord, hnone]

/-- The descriptor begins with a colon, so its key is no null character. -/
theorem exists_bindingOf?_blank_condition (hblank : ∀ c ∈ condition, isBlank c = true)
    (hrest : Text.words (Line.dropComment rest) ≠ [])
    (h : Line.HoldsAction (Text.plain (Line.dropComment rest))) :
    ∃ binding, bindingOf? ("key ".toList ++ condition ++ " : ".toList ++ rest) = some binding ∧
      binding.keyCode ≠ 0 := by
  cases hsplit : Line.splitAction? (' ' :: Text.plain (Line.dropComment rest)) with
  | none =>
    exact absurd (Line.holdsAction_space_cons.mpr h) (Line.splitAction?_eq_none_iff.mp hsplit)
  | some parts =>
    obtain ⟨before, action⟩ := parts
    have hread : Line.read ("key ".toList ++ condition ++ " : ".toList ++ rest) =
        .key (':' :: before.filter (· != ' ')) action := by
      rw [Line.read_blank_condition hblank hrest, Line.ofPlain_keyWord, hsplit]
      rfl
    refine ⟨bindingFor (':' :: before.filter (· != ' ')) action, by rw [bindingOf?, hread], ?_⟩
    have hfree : ∀ c ∈ ':' :: before.filter (· != ' '), isBlank c = false := fun c hc ↦
      (Line.mem_of_mem_descriptor hread hc).2
    have hcolon : lowerOne ':' ≠ Char.ofNat 0 := by decide
    refine Key.keyCode_decode_ne_zero (fun c hc ↦ isBlank_of_mem_lower hfree hc) ?_
    rw [lower_cons (by decide)]
    exact fun hhead ↦ hcolon (Option.some.inj hhead)

theorem bindingsOf_of_not_mem {lines : List Text} (h : ∀ line ∈ lines, ':' ∉ line) :
    bindingsOf lines = [] := by
  refine List.filterMap_eq_nil_iff.mpr fun line hline ↦ ?_
  unfold bindingOf?
  split
  · next descriptor action hread => exact absurd (Line.colon_mem_of_read hread) (h line hline)
  · rfl

end Reader

/-! ### The binding of a result -/

namespace Binding

theorem colon_not_mem_resultPart {result : Text} (h : ':' ∉ result) : ':' ∉ resultPart result := by
  unfold resultPart
  split <;> simp [h]

/-- Lines without a condition make the null binding just if the first one holds no action and no
other binding comes first in the further ones. -/
theorem headD_bindingsOf_eq_null_iff {condition first : Text}
    (hblank : ∀ c ∈ condition, isBlank c = true) (hwords : Text.words (Line.dropComment first) ≠ [])
    (later : List Text) :
    (Reader.bindingsOf (("key ".toList ++ condition ++ " : ".toList ++ first) :: later)).headD null =
        null ↔
      ¬ Line.HoldsAction (Text.plain (Line.dropComment first)) ∧
        ∀ other, (Reader.bindingsOf later).head? = some other → other = null := by
  by_cases hholds : Line.HoldsAction (Text.plain (Line.dropComment first))
  · obtain ⟨found, hfound, hcode⟩ :=
      Reader.exists_bindingOf?_blank_condition hblank hwords hholds
    have hne : found ≠ null := fun heq ↦ hcode (congrArg (fun b ↦ b.keyCode) heq)
    rw [Reader.bindingsOf, List.filterMap_cons_some hfound, List.headD_cons]
    exact iff_of_false hne fun hand ↦ hand.1 hholds
  · have hnone := Reader.bindingOf?_blank_condition_of_not hblank hwords hholds
    rw [Reader.bindingsOf, List.filterMap_cons_none hnone, ← Reader.bindingsOf]
    cases Reader.bindingsOf later <;> simp [hholds]

/-- A condition of blanks and a result, whatever is in it, make a binding, and that is the one that
stands for none unless a colon in the first line of the result has an action behind it, or one of
its further lines is a key line. A result without a colon never makes any other. -/
theorem ofParts_eq_null_iff (homes : Homes) {condition : Text}
    (hblank : ∀ c ∈ condition, isBlank c = true) (hline : '\n' ∉ condition) (result : Text) :
    ∃ binding first later,
      (ofParts condition result (Settings.usual homes)).value = .ok binding ∧
      Text.linesBy '\n' (resultPart result) = first :: later ∧
      (binding = null ↔
        ¬ Line.HoldsAction (Text.plain (Line.dropComment first)) ∧
          ∀ other, (Reader.bindingsOf later).head? = some other → other = null) ∧
      ('\n' ∉ result →
        (binding = null ↔
          ¬ Line.HoldsAction (Text.plain (Line.dropComment (resultPart result))))) ∧
      (':' ∉ result → binding = null) := by
  obtain ⟨c, rest, hpart, hc, hhash⟩ := exists_resultPart_cons result
  have hend : c ≠ '\n' := by
    rintro rfl
    exact absurd hc (by decide)
  obtain ⟨more, later, hlines⟩ := Text.exists_linesBy_cons hend rest
  rw [← hpart] at hlines
  have hwords : Text.words (Line.dropComment (c :: more)) ≠ [] := by
    rw [Line.dropComment, if_neg fun hand ↦ hhash hand.1]
    exact Text.words_ne_nil List.mem_cons_self hc
  have hiff := headD_bindingsOf_eq_null_iff hblank hwords later
  refine ⟨_, c :: more, later, value_ofParts_of_lines (Settings.utf8_usual homes) hline hlines,
    hlines, hiff, fun hresult ↦ ?_, fun hcolon ↦ hiff.mpr ⟨?_, ?_⟩⟩
  · have hone := hlines.symm.trans (linesBy_resultPart hresult)
    obtain ⟨hfirst, rfl⟩ := List.cons.inj hone
    rw [hiff, hfirst]
    exact and_iff_left fun other hother ↦ absurd hother.symm (Option.some_ne_none other)
  · refine Line.not_holdsAction_of_not_mem fun hmem ↦ colon_not_mem_resultPart hcolon ?_
    have hfirst : c :: more ∈ Text.linesBy '\n' (resultPart result) := hlines ▸ List.mem_cons_self
    exact Text.mem_of_mem_linesBy hfirst
      (Line.dropComment_subset _ ((Text.mem_plain_iff (by decide)).mp hmem))
  · have hnone : Reader.bindingsOf later = [] := Reader.bindingsOf_of_not_mem fun line hlater hmem ↦
      colon_not_mem_resultPart hcolon
        (Text.mem_of_mem_linesBy (hlines ▸ List.mem_cons_of_mem _ hlater) hmem)
    rw [hnone]
    exact fun other hother ↦ absurd hother.symm (Option.some_ne_none other)

/-- A colon that would have an action but for a comment, and a result of two lines with the binding
of the second. -/
theorem ofParts_eq_null_iff_comment :
    (ofParts "\t\u2003".toList "x # y:erase\"".toList
        (Settings.usual ⟨"/root".toList, []⟩)).value = .ok null ∧
      ∃ binding, (ofParts [] "x\nkey B : up".toList
          (Settings.usual ⟨"/root".toList, []⟩)).value = .ok binding ∧ binding ≠ null := by
  have hblank : ∀ c ∈ "\t\u2003".toList, isBlank c = true := List.all_eq_true.mp (by decide)
  obtain ⟨binding, -, -, hvalue, -, -, honeLine, -⟩ :=
    @ofParts_eq_null_iff ⟨"/root".toList, []⟩ "\t\u2003".toList hblank (by decide)
      "x # y:erase\"".toList
  have hplain : Text.plain (Line.dropComment (resultPart "x # y:erase\"".toList)) =
      "\"x".toList := by
    decide +kernel
  have hnot : ¬ Line.HoldsAction "\"x".toList := Line.not_holdsAction_of_not_mem (by decide)
  rw [hplain] at honeLine
  rw [(honeLine (by decide)).mpr hnot] at hvalue
  refine ⟨hvalue, ?_⟩
  obtain ⟨other, first, later, hother, hlines, hiff, -, -⟩ :=
    @ofParts_eq_null_iff ⟨"/root".toList, []⟩ [] (List.forall_mem_nil _) List.not_mem_nil
      "x\nkey B : up".toList
  have htwo : Text.linesBy '\n' (resultPart "x\nkey B : up".toList) =
      ["\"x\n".toList, "key B : up\"".toList] := by
    decide +kernel
  obtain ⟨rfl, rfl⟩ := List.cons.inj (hlines.symm.trans htwo)
  have hsecond : (Reader.bindingsOf ["key B : up\"".toList]).head? =
      some ⟨⟨0x42, 0, 0, 0, 0⟩, .none, []⟩ := by
    decide +kernel
  refine ⟨other, hother, fun heq ↦ ?_⟩
  exact absurd ((hiff.mp heq).2 _ hsecond) (by decide)

/-- A text without a condition that erases on its own letter. -/
theorem ofParts_ne_null :
    ((∀ c ∈ ([] : Text), isBlank c = true) ∧ '\n' ∉ ([] : Text)) ∧
      (ofParts [] "x:erase".toList (Settings.usual ⟨"/root".toList, []⟩)).value =
        .ok ⟨⟨0x58, 0, 0, 0, 0⟩, .erase, []⟩ ∧
      (ofParts [] "x:erase".toList (Settings.usual ⟨"/root".toList, []⟩)).value ≠ .ok null := by
  have hvalue : (ofParts [] "x:erase".toList (Settings.usual ⟨"/root".toList, []⟩)).value =
      .ok ⟨⟨0x58, 0, 0, 0, 0⟩, .erase, []⟩ := by
    decide +kernel
  refine ⟨⟨List.forall_mem_nil _, List.not_mem_nil⟩, hvalue, ?_⟩
  rw [hvalue]
  decide

end Binding

end TermKeys
