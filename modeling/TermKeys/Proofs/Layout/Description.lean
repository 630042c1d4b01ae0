import TermKeys.Proofs.Layout.Reload
import TermKeys.Proofs.Text.Numeral

/-!
Descriptions of saved layouts. The key of a binding may be the character that ends a line, so that
the binding stands in two lines of the file, but none of them is a title (`not_title_of_mem_lines`).
A description is therefore read from the first line or it is empty, and it comes back just when it
may be a title (`description_load_save_iff`): it is in plain form and has no quotes.
-/

set_option autoImplicit false

namespace TermKeys

open Unicode

/-! ### Line ends in the line of a binding -/

/-- The written form of a key is the line end or has none in it. -/
theorem Key.lineEnd_of_text {code : Int} {key : Text} (h : Key.text code = .ok key) :
    key = ['\n'] ∨ '\n' ∉ key := by
  rcases text_cases h with ⟨found, hfound, rfl⟩ | ⟨-, -, rfl⟩ | rfl
  · right
    intro hmem
    have hblank := (mem_spelling found hfound _ hmem).2.2.1
    exact absurd hblank (by decide)
  · by_cases hc : Char.ofNat code.toNat = '\n'
    · exact Or.inl (by rw [hc])
    · exact Or.inr (by simpa using Ne.symm hc)
  · right
    have hdigits : ∀ n : Nat, '\n' ∉ Text.hexOfNat n := fun n hmem ↦
      absurd (Text.le_toNat_of_mem_hexOfNat hmem) (by decide)
    cases code <;> simp [Text.hexOfInt, hdigits]

theorem Condition.head?_flagText {set mask bit : Nat} {name : Text} {c : Char}
    (h : (flagText set mask bit name).head? = some c) : c = '+' ∨ c = '-' := by
  unfold flagText at h
  split_ifs at h
  · exact Or.inl (Option.some.inj h).symm
  · exact Or.inr (Option.some.inj h).symm
  · exact nomatch h

/-- The modifiers and modes of a condition begin with a sign. -/
theorem Condition.head?_flagsText {condition : Condition} {c : Char}
    (h : condition.flagsText.head? = some c) : c = '+' ∨ c = '-' := by
  rw [flagsText, List.head?_append, List.head?_flatMap, List.head?_flatMap,
    Option.or_eq_some_iff] at h
  rcases h with h | ⟨-, h⟩
  · obtain ⟨m, -, hm⟩ := List.exists_of_findSome?_eq_some h
    exact head?_flagText hm
  · obtain ⟨m, -, hm⟩ := List.exists_of_findSome?_eq_some h
    exact head?_flagText hm

theorem Binding.lineEnd_not_mem_resultText {binding : Binding} {result : Text}
    (h : binding.resultText "utf-8".toList = .ok result) : '\n' ∉ result := by
  rcases binding.text?_cases with ⟨htext, spelling, hspelling⟩ | hsent
  · rw [resultText_of_text? htext hspelling] at h
    obtain rfl := Except.ok.inj h
    exact fun hmem ↦ (binding.command.text_of_text? spelling hspelling).2.1 _ hmem |>.2.1 rfl
  · have hascii : ∀ byte ∈ binding.writtenOutput, byte.toNat < 0x80 :=
      fun _ hbyte ↦ toNat_lt_of_mem_write hbyte
    rw [resultText_of_sent hsent, Reader.decodeAs_utf8, decode_ascii hascii] at h
    obtain rfl := Except.ok.inj h
    have hfree : '\n' ∉ asciiText binding.writtenOutput := fun hmem ↦
      absurd (le_toNat_of_mem_written hmem) (by decide)
    simpa using hfree

namespace Layout

/-- What follows the key in the line of a binding is no title by itself: it begins with a sign or
with the colon. -/
theorem read_flags_ne_title (condition : Condition) (rest title : Text) :
    Line.read (condition.flagsText ++ " : ".toList ++ rest) ≠ .title title := by
  have hcolon : " : ".toList = [' '] ++ [':', ' '] := by decide
  cases hflags : condition.flagsText with
  | nil =>
    rw [List.nil_append, hcolon, List.append_assoc]
    have hblank : ∀ d ∈ [' '], isBlank d = true := List.forall_mem_singleton.mpr (by decide +kernel)
    exact Line.read_ne_title hblank (by decide) (by decide) title
  | cons c more =>
    have hsign : c = '+' ∨ c = '-' := Condition.head?_flagsText (by rw [hflags]; rfl)
    have hnone : ∀ d ∈ ([] : Text), isBlank d = true := List.forall_mem_nil _
    rw [List.append_assoc, List.cons_append]
    rcases hsign with rfl | rfl
    · exact Line.read_ne_title hnone (by decide) (by decide) title
    · exact Line.read_ne_title hnone (by decide) (by decide) title

theorem exists_parts_of_bindingLine {binding : Binding} {line : Text}
    (h : bindingLine binding "utf-8".toList = .ok line) :
    ∃ key result, Key.text binding.keyCode = .ok key ∧
      binding.resultText "utf-8".toList = .ok result ∧
      line = "key ".toList ++ (key ++ binding.flagsText) ++ " : ".toList ++ result ++ ['\n'] := by
  obtain ⟨written, result, hwritten, hresult, rfl⟩ := bindingLine_eq_ok_iff.mp h
  obtain ⟨key, hkey, rfl⟩ := Condition.text_eq_ok_iff.mp hwritten
  exact ⟨key, result, hkey, hresult, rfl⟩

/-- The line of a binding ends with a line end. If its key is one too, the binding stands in two
lines; none is a title. -/
theorem not_title_of_mem_lines {binding : Binding} {line : Text}
    (h : bindingLine binding "utf-8".toList = .ok line) :
    (∃ body, line = body ++ ['\n']) ∧
      ∀ piece ∈ Text.linesBy '\n' line, ∀ title, Line.read piece ≠ .title title := by
  obtain ⟨key, result, hkey, hresult, rfl⟩ := exists_parts_of_bindingLine h
  refine ⟨⟨_, rfl⟩, ?_⟩
  have hflags : '\n' ∉ binding.flagsText := fun hmem ↦
    absurd (Condition.isPlainChar_flagsText hmem).2.1 (by decide)
  have hend := Binding.lineEnd_not_mem_resultText hresult
  rcases Key.lineEnd_of_text hkey with rfl | hfree
  · have hsplit : "key ".toList ++ (['\n'] ++ binding.flagsText) ++ " : ".toList ++ result ++
        ['\n'] = "key ".toList ++ '\n' ::
          (binding.flagsText ++ " : ".toList ++ result ++ '\n' :: []) := by
      simp
    rw [hsplit, Text.linesBy_append_terminator (by decide),
      Text.linesBy_append_terminator (by simp [hflags, hend])]
    intro piece hpiece title
    simp only [Text.linesBy, List.mem_cons, List.not_mem_nil, or_false] at hpiece
    rcases hpiece with rfl | rfl
    · exact Line.read_keyWord_ne_title _ title
    · rw [List.append_assoc _ result]
      exact read_flags_ne_title _ _ title
  · rw [Text.linesBy_append_terminator (by simp [hfree, hflags, hend])]
    intro piece hpiece title
    obtain rfl := List.mem_singleton.mp hpiece
    simp only [List.append_assoc]
    exact Line.read_keyWord_ne_title _ title

/-! ### Loading what was saved -/

theorem value_load_put {tree : FileTree} {dest : Path} {location : Location}
    (htarget : tree.target dest = .ok location) (homes : Homes) (content : Text) :
    (load (tree.put location (.file (Utf8.encode content))) dest (Settings.usual homes)).value =
      .ok ((empty dest.stem (Reader.descriptionOf (Text.linesBy '\n' content))).addAll
        (Reader.bindingsOf (Text.linesBy '\n' content))) := by
  rw [load, FileTree.read_put htarget]
  refine (value_ofLines_utf8 (Settings.utf8_usual homes) dest _).trans ?_
  rw [Reader.utf8Text_upToEnd_ofBytes]

/-- The lines of a saved layout are the title, which may break into several, and lines that are no
titles. -/
theorem exists_lines_titleLine {layout : Layout} {lines : List Text}
    (h : (layout.bindings.map fun b ↦ bindingLine b "utf-8".toList) = lines.map .ok) :
    ∃ others, Text.linesBy '\n' (titleLine layout.description :: lines).flatten =
        Text.linesBy '\n' (titleLine layout.description) ++ others ∧
      ∀ line ∈ others, ∀ title, Line.read line ≠ .title title := by
  have hline : ∀ line ∈ lines, (∃ body, line = body ++ ['\n']) ∧
      ∀ piece ∈ Text.linesBy '\n' line, ∀ title, Line.read piece ≠ .title title := by
    intro line hline
    have hmem : Except.ok line ∈ layout.bindings.map fun b ↦ bindingLine b "utf-8".toList :=
      h ▸ List.mem_map_of_mem hline
    obtain ⟨b, -, hb⟩ := List.mem_map.mp hmem
    exact not_title_of_mem_lines hb
  have htitle : ∃ body, titleLine layout.description = body ++ ['\n'] :=
    ⟨_, titleLine_eq layout.description⟩
  refine ⟨lines.flatMap (Text.linesBy '\n'), ?_, fun piece hpiece ↦ ?_⟩
  · rw [Text.linesBy_flatten_of_terminated, List.flatMap_cons]
    exact List.forall_mem_cons.mpr ⟨htitle, fun line hmem ↦ (hline line hmem).1⟩
  · obtain ⟨line, hmem, hin⟩ := List.mem_flatMap.mp hpiece
    exact (hline line hmem).2 piece hin

end Layout

/-- Whatever a reader takes for the description may be a title. -/
theorem Reader.isTitle_titleOf (settings : Settings) (lines : List RawLine) :
    Line.IsTitle (titleOf settings lines) := by
  have hnone : Line.IsTitle [] := ⟨rfl, List.not_mem_nil⟩
  induction lines with
  | nil => exact hnone
  | cons line rest ih =>
    rw [titleOf]
    split_ifs
    · exact hnone
    · split
      · exact hnone
      · split
        · exact hnone
        · next title hread => exact Line.isTitle_of_read hread
        · exact ih

namespace Layout

/-- A layout that is saved without a fault, whatever its bindings and its description are, can be
loaded again. Its description comes back just when it has no quotes and its words stand one space
apart, as those of every description that a reader produces do. -/
theorem description_load_save_iff {others : Codecs} (homes : Homes) {tree : FileTree}
    {layout : Layout} {dest : Path}
    (hsave : (save others tree layout dest "utf-8".toList).2 = .ok ()) :
    (∃ reloaded,
      (load (save others tree layout dest "utf-8".toList).1 dest (Settings.usual homes)).value =
          .ok reloaded ∧
        (reloaded.description = layout.description ↔
          '"' ∉ layout.description ∧ Text.plain layout.description = layout.description)) ∧
      ∀ (settings : Settings) (lines : List RawLine) (reader : Reader),
        (Reader.start settings lines).1.value = .ok reader →
          '"' ∉ reader.description ∧ Text.plain reader.description = reader.description := by
  have hname : Encoding.find .openFile "utf-8".toList = .ok .utf8 := rfl
  obtain ⟨location, lines, htarget, hlines, hfile⟩ := exists_lines_of_save hname hsave
  have hsaved : (save others tree layout dest "utf-8".toList).1 =
      tree.put location (.file (Utf8.encode (titleLine layout.description :: lines).flatten)) := by
    rw [save_of_find htarget (Codec.find_of_encoding hname), hfile, encodeLines_utf8]
  obtain ⟨following, hsplit, hnone⟩ := exists_lines_titleLine hlines
  refine ⟨?_, fun settings lines reader hstart ↦ ?_⟩
  · rw [hsaved, value_load_put htarget, hsplit]
    refine ⟨_, rfl, ?_⟩
    rw [description_addAll, empty]
    constructor
    · intro h
      have htitle : Line.IsTitle layout.description := h ▸ isTitle_descriptionOf _
      exact ⟨htitle.quote_not_mem, htitle.plain_eq⟩
    · rintro ⟨hquote, hplain⟩
      have htitle : Line.IsTitle layout.description := ⟨hplain, hquote⟩
      obtain ⟨body, hbody, hfree⟩ := exists_body_titleLine htitle
      have hone : Text.linesBy '\n' (titleLine layout.description) =
          [titleLine layout.description] := by
        rw [hbody]
        exact Text.linesBy_append_terminator hfree []
      rw [hone]
      exact descriptionOf_titleLine htitle hnone
  · have htitle := Reader.isTitle_titleOf settings lines
    rw [← (Reader.takeAll_of_start hstart).1] at htitle
    exact ⟨htitle.quote_not_mem, htitle.plain_eq⟩

/-- A layout whose only binding is on the line end and sends what looks like a title. -/
def onLineEnd : Layout :=
  ⟨"own".toList, "keyboard #1: a".toList,
    [⟨0x0A, [⟨⟨0x0A, 0, 0x2000000, 0, 0⟩, .none, Utf8.encode "keyboard \"b\"".toList⟩]⟩]⟩

theorem description_load_save_onLineEnd :
    (save Codec.others (treeOf []) onLineEnd (.ofText "/b.keytab".toList)
        "utf-8".toList).2 = .ok () ∧
      ∃ reloaded,
        (load
            (save Codec.others (treeOf []) onLineEnd (.ofText "/b.keytab".toList) "utf-8".toList).1
            (.ofText "/b.keytab".toList) (Settings.usual ⟨"/root".toList, []⟩)).value =
          .ok reloaded ∧
          reloaded.description = "keyboard #1: a".toList := by
  have hsave : (save Codec.others (treeOf []) onLineEnd (.ofText "/b.keytab".toList)
      "utf-8".toList).2 = .ok () := by
    decide +kernel
  obtain ⟨⟨reloaded, hload, hiff⟩, -⟩ :=
    description_load_save_iff ⟨"/root".toList, []⟩ hsave
  exact ⟨hsave, reloaded, hload, hiff.mpr (by decide +kernel)⟩

end Layout

end TermKeys
