import Mathlib.Data.List.Forall2
import Mathlib.Tactic.Choose
import TermKeys.Proofs.FileTree
import TermKeys.Proofs.Layout.Written
import TermKeys.Proofs.Line.Title
import TermKeys.Proofs.Reader.Named

/-!
Layouts saved and loaded again. The description always comes back. The bindings come back, each in
its place and with its condition, command and output, just when none of them is on the null
character and the output of all of them survives (`exists_reload_iff`). In one direction every
line gives its binding back, in the order of the groups. In the other the total length of all output
decides: no line adds to it, so if none is lost each line has kept its own.
-/

set_option autoImplicit false

namespace TermKeys

/-! ### Sums over some members of a list -/

section

variable {α β : Type} {found : α → Option β} {size : α → Nat} {sizeFound : β → Nat} {list : List α}

theorem sum_filterMap_le (h : ∀ a ∈ list, ∀ b, found a = some b → sizeFound b ≤ size a) :
    ((list.filterMap found).map sizeFound).sum ≤ (list.map size).sum := by
  induction list with
  | nil => exact Nat.le_refl _
  | cons a rest ih =>
    have hrest := ih fun other hother ↦ h other (List.mem_cons_of_mem _ hother)
    rw [List.filterMap_cons, List.map_cons, List.sum_cons]
    cases hfound : found a with
    | none => exact Nat.le_trans hrest (Nat.le_add_left _ _)
    | some b => exact Nat.add_le_add (h a List.mem_cons_self b hfound) hrest

/-- If nothing is left out and the total does not shrink, no member shrinks. -/
theorem exists_of_sum_filterMap
    (h : ∀ a ∈ list, ∀ b, found a = some b → sizeFound b ≤ size a)
    (hlength : (list.filterMap found).length = list.length)
    (hsum : ((list.filterMap found).map sizeFound).sum = (list.map size).sum) :
    ∀ a ∈ list, ∃ b, found a = some b ∧ sizeFound b = size a := by
  induction list with
  | nil => simp
  | cons a rest ih =>
    have hrest : ∀ other ∈ rest, ∀ b, found other = some b → sizeFound b ≤ size other :=
      fun other hother ↦ h other (List.mem_cons_of_mem _ hother)
    have hle := sum_filterMap_le hrest
    rw [List.filterMap_cons] at hlength hsum
    cases hfound : found a with
    | none =>
      have hshort := List.length_filterMap_le found rest
      simp only [hfound, List.length_cons] at hlength
      omega
    | some b =>
      simp only [hfound, List.map_cons, List.sum_cons, List.length_cons] at hlength hsum
      have hb := h a List.mem_cons_self b hfound
      intro other hother
      rcases List.mem_cons.mp hother with rfl | hother
      · exact ⟨b, hfound, by omega⟩
      · exact ih hrest (by omega) (by omega) other hother

end

/-! ### Agreement -/

/-- Bindings that differ at most in the way their text is written. -/
def Binding.Agrees (first second : Binding) : Prop :=
  first.toCondition = second.toCondition ∧ first.command = second.command ∧
    first.output = second.output

namespace Layout

/-! ### Saving -/

/-- Lines for the bindings of a layout, below its title. -/
theorem save_utf8 (others : Codecs) {tree : FileTree} {dest : Path} {location : Location}
    (htarget : tree.target dest = .ok location) {layout : Layout} {line : Binding → Text}
    (hline : ∀ b ∈ layout.bindings, b.HasLine (line b)) :
    save others tree layout dest "utf-8".toList =
      (tree.put location (.file (Utf8.encode
        (titleLine layout.description :: layout.bindings.map line).flatten)), .ok ()) := by
  have hname : Encoding.find .openFile "utf-8".toList = .ok .utf8 := rfl
  have hlines : fileLines others layout "utf-8".toList =
      (titleLine layout.description :: layout.bindings.map line).map
        fun line ↦ .ok line.points := by
    rw [fileLines, List.map_cons, List.map_map]
    exact congrArg _
      (List.map_congr_left fun b hb ↦ (linePoints_eq_ok_iff hname).mpr (hline b hb).eq)
  rw [save_of_find htarget (Codec.find_of_encoding hname), hlines,
    encodeLines_utf8]

/-! ### Loading what was saved -/

theorem exists_body_titleLine {title : Text} (h : Line.IsTitle title) :
    ∃ body, titleLine title = body ++ ['\n'] ∧ '\n' ∉ body := by
  refine ⟨_, titleLine_eq title, ?_⟩
  simp [h.lineEnd_not_mem]

theorem descriptionOf_lines {lines : List Text}
    (h : ∀ line ∈ lines, ∀ t, Line.read line ≠ .title t) :
    Reader.descriptionOf lines = [] := by
  unfold Reader.descriptionOf
  split
  · next title hfind =>
    obtain ⟨line, hline, heq⟩ := List.mem_map.mp (List.mem_of_find?_eq_some hfind)
    exact absurd heq (h line hline title)
  · rfl

/-- The title of a layout is read from its lines. -/
theorem descriptionOf_titleLine {title : Text} (htitle : Line.IsTitle title) {lines : List Text}
    (h : ∀ line ∈ lines, ∀ t, Line.read line ≠ .title t) :
    Reader.descriptionOf (titleLine title :: lines) = title := by
  have hread := Line.read_titleLine htitle
  by_cases hempty : title = []
  · rw [if_pos hempty] at hread
    rw [descriptionOf_lines, hempty]
    rintro line hline t
    rcases List.mem_cons.mp hline with rfl | hline
    · rw [hread]
      exact Line.noConfusion
    · exact h line hline t
  · rw [if_neg hempty] at hread
    simp [Reader.descriptionOf, hread, Line.tokens]

theorem bindingsOf_titleLine {title : Text} (htitle : Line.IsTitle title) (lines : List Text) :
    Reader.bindingsOf (titleLine title :: lines) = Reader.bindingsOf lines := by
  have hread := Line.read_titleLine htitle
  have hnone : Reader.bindingOf? (titleLine title) = none := by
    rw [Reader.bindingOf?, hread]
    by_cases hempty : title = [] <;> simp [hempty]
  rw [Reader.bindingsOf, List.filterMap_cons_none hnone, ← Reader.bindingsOf]

/-! ### What comes back -/

/-- A binding that is read from a line has a line of its own, which gives it back if its key is not
the null character and its output survives. -/
theorem exists_line_of_bindingOf? {text : Text} {binding : Binding}
    (h : Reader.bindingOf? text = some binding) :
    ∃ line, binding.HasLine line ∧ (binding.keyCode ≠ 0 → Survives binding.output →
      ∃ back, Reader.bindingOf? line = some back ∧ back.Agrees binding) := by
  unfold Reader.bindingOf? at h
  split at h
  · next descriptor action hread =>
    obtain rfl := Option.some.inj h
    have hholdable := Reader.isHoldable_bindingFor descriptor action
    have hreadable : Key.Readable (Reader.bindingFor descriptor action).keyCode :=
      Line.readable_of_read hread
    have hnamed : (Reader.bindingFor descriptor action).toCondition.Named :=
      Descriptor.named_decode _
    have hwithin : (Reader.bindingFor descriptor action).toCondition.Within :=
      Descriptor.within_decode _
    by_cases hzero : (Reader.bindingFor descriptor action).keyCode = 0
    · obtain ⟨written, hwritten, hword⟩ := Condition.exists_text_of_zero hzero
      obtain ⟨line, hline, -⟩ := exists_line hholdable hwritten hword
      exact ⟨line, hline, fun hne ↦ absurd hzero hne⟩
    · obtain ⟨written, hwritten⟩ := Condition.exists_written hreadable hzero hnamed
      obtain ⟨line, hline, hback⟩ := exists_line hholdable hwritten.text_eq hwritten.isWord
      refine ⟨line, hline, fun _ hsurvives ↦ ?_⟩
      obtain ⟨back, hfound, hcondition, hcommand, houtput⟩ := hback hsurvives
      refine ⟨back, hfound, ?_, hcommand, houtput⟩
      rw [hcondition, hwritten.decode_eq, Condition.visible_of_within hwithin]
  · simp at h

section

variable {layout : Layout} {line : Binding → Text}

theorem bindingsOf_map_line (bindings : List Binding) :
    Reader.bindingsOf (bindings.map line) =
      bindings.filterMap fun b ↦ Reader.bindingOf? (line b) := by
  rw [Reader.bindingsOf, List.filterMap_map]
  rfl

/-- Where each line gives its binding back, so do all of them in order. -/
theorem forall₂_bindingsOf {bindings : List Binding}
    (h : ∀ b ∈ bindings, ∃ back, Reader.bindingOf? (line b) = some back ∧ back.Agrees b) :
    List.Forall₂ Binding.Agrees (Reader.bindingsOf (bindings.map line)) bindings := by
  rw [bindingsOf_map_line]
  induction bindings with
  | nil => exact List.Forall₂.nil
  | cons b rest ih =>
    obtain ⟨back, hfound, hagrees⟩ := h b List.mem_cons_self
    rw [List.filterMap_cons_some (f := fun b ↦ Reader.bindingOf? (line b)) hfound]
    exact List.Forall₂.cons hagrees (ih fun other hother ↦ h other (List.mem_cons_of_mem _ hother))

/-- Bindings that agree in order have the same keys and the same total length of output. -/
theorem eq_of_forall₂_agrees {first second : List Binding}
    (h : List.Forall₂ Binding.Agrees first second) :
    first.map (fun b ↦ b.keyCode) = second.map (fun b ↦ b.keyCode) ∧
      (first.map fun b ↦ b.output.length).sum = (second.map fun b ↦ b.output.length).sum := by
  induction h with
  | nil => exact ⟨rfl, rfl⟩
  | cons hagrees _ ih =>
    obtain ⟨hcondition, -, houtput⟩ := hagrees
    constructor
    · rw [List.map_cons, List.map_cons, ih.1, hcondition]
    · rw [List.map_cons, List.map_cons, List.sum_cons, List.sum_cons, ih.2, houtput]

/-- The bindings of a layout are grouped again as they were just when each line gives its own
back. -/
theorem forall₂_agrees_iff (hgrouped : IsGrouped layout.groups)
    (hline : ∀ b ∈ layout.bindings, b.HasLine (line b) ∧
      (b.keyCode ≠ 0 → Survives b.output →
        ∃ back, Reader.bindingOf? (line b) = some back ∧ back.Agrees b))
    (name description : Text) :
    List.Forall₂ Binding.Agrees
        ((empty name description).addAll
          (Reader.bindingsOf (layout.bindings.map line))).bindings layout.bindings ↔
      ∀ b ∈ layout.bindings, b.keyCode ≠ 0 ∧ Survives b.output := by
  constructor
  · intro h
    have hperm := perm_bindings_addAll (empty name description)
      (Reader.bindingsOf (layout.bindings.map line))
    rw [bindingsOf_map_line] at hperm h
    change List.Perm _ (layout.bindings.filterMap fun b ↦ Reader.bindingOf? (line b)) at hperm
    obtain ⟨hcodes, hsum⟩ := eq_of_forall₂_agrees h
    -- No line adds to its output, so an equal total leaves each line with all of it.
    have hkept := exists_of_sum_filterMap
      (fun b hb back hback ↦ ((hline b hb).1.length_le back hback).1)
      (hperm.length_eq.symm.trans h.length_eq)
      ((hperm.map fun b : Binding ↦ b.output.length).sum_nat.symm.trans hsum)
    intro b hb
    obtain ⟨back, hback, hlength⟩ := hkept b hb
    refine ⟨?_, ((hline b hb).1.length_le back hback).2 hlength⟩
    have hcode : b.keyCode ∈ layout.bindings.map fun b ↦ b.keyCode := List.mem_map_of_mem hb
    rw [← hcodes] at hcode
    obtain ⟨found, hfound, heq⟩ := List.mem_map.mp hcode
    obtain ⟨other, hother, hread⟩ := List.mem_filterMap.mp (hperm.subset hfound)
    exact heq ▸ (hline other hother).1.keyCode_ne_zero found hread
  · intro h
    have hback := forall₂_bindingsOf fun b hb ↦ (hline b hb).2 (h b hb).1 (h b hb).2
    rwa [bindings_addAll_of_grouped hgrouped (eq_of_forall₂_agrees hback).1]

end

/-! ### Saving and loading again -/

theorem isTitle_descriptionOf (lines : List Text) : Line.IsTitle (Reader.descriptionOf lines) := by
  unfold Reader.descriptionOf
  split
  · next title hfind =>
    obtain ⟨line, -, heq⟩ := List.mem_map.mp (List.mem_of_find?_eq_some hfind)
    exact Line.isTitle_of_read heq
  · exact ⟨rfl, List.not_mem_nil⟩

/-- A layout loaded from any file is saved to any place that can be written and loaded again from
there. Its description comes back. Its bindings come back in order, with the same conditions,
commands and output, just when none is on the null character and all output survives. -/
theorem exists_reload_iff (others : Codecs) (homes : Homes) {tree : FileTree} {path dest : Path}
    {content : Bytes} {location : Location} (hread : tree.read path = .ok content)
    (htarget : tree.target dest = .ok location) :
    ∃ layout saved reloaded,
      (load tree path (Settings.usual homes)).value = .ok layout ∧
        save others tree layout dest "utf-8".toList = (saved, .ok ()) ∧
        (load saved dest (Settings.usual homes)).value = .ok reloaded ∧
        reloaded.description = layout.description ∧
        (List.Forall₂ Binding.Agrees reloaded.bindings layout.bindings ↔
          ∀ b ∈ layout.bindings, b.keyCode ≠ 0 ∧ Survives b.output) := by
  have hutf8 := Settings.utf8_usual homes
  have hload : (load tree path (Settings.usual homes)).value =
      (ofLines path (RawLine.ofBytes content) (Settings.usual homes)).value := by
    rw [load, hread]
  rw [value_ofLines_utf8 hutf8] at hload
  generalize (RawLine.upToEnd (RawLine.ofBytes content)).map RawLine.utf8Text = texts at hload
  generalize hlayout : (empty path.stem (Reader.descriptionOf texts)).addAll
    (Reader.bindingsOf texts) = layout at hload
  have hgrouped : IsGrouped layout.groups := hlayout ▸ isGrouped_addAll isGrouped_nil _
  have hdescription : layout.description = Reader.descriptionOf texts := by
    rw [← hlayout, description_addAll]
    rfl
  have htitle : Line.IsTitle layout.description := hdescription ▸ isTitle_descriptionOf texts
  have hlines : ∀ b ∈ layout.bindings, ∃ line, b.HasLine line ∧
      (b.keyCode ≠ 0 → Survives b.output →
        ∃ back, Reader.bindingOf? line = some back ∧ back.Agrees b) := by
    intro b hb
    have hmem : b ∈ Reader.bindingsOf texts :=
      (perm_bindings_addAll _ _).subset (hlayout.symm ▸ hb)
    obtain ⟨text, -, hfound⟩ := List.mem_filterMap.mp hmem
    exact exists_line_of_bindingOf? hfound
  choose! line hline using hlines
  have hsave := save_utf8 others htarget fun b hb ↦ (hline b hb).1
  have hcut : Text.linesBy '\n'
      (titleLine layout.description :: layout.bindings.map line).flatten =
        titleLine layout.description :: layout.bindings.map line := by
    refine Text.linesBy_flatten fun text htext ↦ ?_
    rcases List.mem_cons.mp htext with rfl | htext
    · exact exists_body_titleLine htitle
    · obtain ⟨b, hb, rfl⟩ := List.mem_map.mp htext
      exact (hline b hb).1.exists_body
  have hnotTitle : ∀ text ∈ layout.bindings.map line, ∀ t, Line.read text ≠ .title t := by
    intro text htext
    obtain ⟨b, hb, rfl⟩ := List.mem_map.mp htext
    exact (hline b hb).1.ne_title
  have hreload : (load (tree.put location (.file (Utf8.encode
      (titleLine layout.description :: layout.bindings.map line).flatten))) dest
        (Settings.usual homes)).value =
      .ok ((empty dest.stem layout.description).addAll
        (Reader.bindingsOf (layout.bindings.map line))) := by
    rw [load, FileTree.read_put htarget]
    refine (value_ofLines_utf8 hutf8 dest _).trans ?_
    rw [Reader.utf8Text_upToEnd_ofBytes, hcut, descriptionOf_titleLine htitle hnotTitle,
      bindingsOf_titleLine htitle]
  refine ⟨layout, _, _, hload, hsave, hreload, ?_, forall₂_agrees_iff hgrouped hline _ _⟩
  rw [description_addAll]
  rfl

/-- Quotes and a number sign come back if the quotes behind it are even in number, and so do a
command and the title. -/
theorem exists_reload_quotes :
    ∃ layout saved reloaded,
      (load (treeOf "keyboard \"Own\"\nkey Up+Ansi : \"\\E#\\x22\\x22\"\nkey A : erase\n".toList)
          (.ofText "/a.keytab".toList) (Settings.usual ⟨"/root".toList, []⟩)).value = .ok layout ∧
        (load saved (.ofText "/b.keytab".toList) (Settings.usual ⟨"/root".toList, []⟩)).value =
          .ok reloaded ∧
        layout.bindings.map Binding.output = [[0x1B, 0x23, 0x22, 0x22], []] ∧
        List.Forall₂ Binding.Agrees reloaded.bindings layout.bindings := by
  have hread : (treeOf
      "keyboard \"Own\"\nkey Up+Ansi : \"\\E#\\x22\\x22\"\nkey A : erase\n".toList).read
        (.ofText "/a.keytab".toList) = .ok (Utf8.encode
          "keyboard \"Own\"\nkey Up+Ansi : \"\\E#\\x22\\x22\"\nkey A : erase\n".toList) := by
    decide +kernel
  have htarget : (treeOf
      "keyboard \"Own\"\nkey Up+Ansi : \"\\E#\\x22\\x22\"\nkey A : erase\n".toList).target
        (.ofText "/b.keytab".toList) = .ok [⟨"b.keytab".toList, by decide⟩] := by
    decide +kernel
  obtain ⟨layout, saved, reloaded, hload, -, hreload, -, hagree⟩ :=
    exists_reload_iff Codec.others ⟨"/root".toList, []⟩ hread htarget
  have hlayout : (load (treeOf
      "keyboard \"Own\"\nkey Up+Ansi : \"\\E#\\x22\\x22\"\nkey A : erase\n".toList)
        (.ofText "/a.keytab".toList) (Settings.usual ⟨"/root".toList, []⟩)).value =
      .ok ⟨"a".toList, "Own".toList,
        [⟨0x1000013, [⟨⟨0x1000013, 0, 0, 2, 2⟩, .none, Utf8.encode "\\E#\\x22\\x22".toList⟩]⟩,
          ⟨0x41, [⟨⟨0x41, 0, 0, 0, 0⟩, .erase, []⟩]⟩]⟩ := by
    decide +kernel
  obtain rfl := Except.ok.inj (hload.symm.trans hlayout)
  exact ⟨_, saved, reloaded, hload, hreload, by decide +kernel, hagree.mpr (by decide +kernel)⟩

/-- A backslash is saved as it is, and in front of an `E` it comes back as an escape. -/
theorem exists_reload_backslash :
    ∃ layout saved reloaded,
      (load (treeOf "key A : \"\\x5cE\"\n".toList) (.ofText "/a.keytab".toList)
          (Settings.usual ⟨"/root".toList, []⟩)).value = .ok layout ∧
        save Codec.others (treeOf "key A : \"\\x5cE\"\n".toList) layout
            (.ofText "/b.keytab".toList) "utf-8".toList = (saved, .ok ()) ∧
        (load saved (.ofText "/b.keytab".toList) (Settings.usual ⟨"/root".toList, []⟩)).value =
          .ok reloaded ∧
        ¬ List.Forall₂ Binding.Agrees reloaded.bindings layout.bindings := by
  refine ⟨⟨"a".toList, [], [⟨0x41, [⟨⟨0x41, 0, 0, 0, 0⟩, .none, Utf8.encode "\\x5cE".toList⟩]⟩]⟩, _,
    ⟨"b".toList, [], [⟨0x41, [⟨⟨0x41, 0, 0, 0, 0⟩, .none, Utf8.encode "\\E".toList⟩]⟩]⟩,
    by decide +kernel, Prod.ext rfl (by decide +kernel), by decide +kernel, fun hagree ↦ ?_⟩
  cases hagree with
  | cons hagrees _ => exact absurd hagrees.2.2 (by decide +kernel)

end Layout

end TermKeys
