import TermKeys.Layout.Stored
import TermKeys.Proofs.Condition
import TermKeys.Proofs.Encoding.Codec

/-!
Lines of bindings as code points and as texts. A line consists of what the key, the modifiers and
modes, and the result are written as (`Binding.line_eq_ok_iff`), and it has no written form if its
key is a surrogate. What a save in one of the four encodings puts out are the written forms of lines
(`Layout.linePoints_eq_ok_iff`), and in UTF-8 they are all put out (`Layout.encodeLines_utf8`).
-/

set_option autoImplicit false

namespace TermKeys

namespace Binding

variable {binding : Binding}

/-! ### Results -/

/-- A binding shows its command just if it sends no text and the command has a spelling. -/
theorem text?_cases (binding : Binding) :
    (binding.text = [] ∧ ∃ spelling, binding.command.text? = some spelling) ∨
      (binding.text ≠ [] ∨ binding.command.text? = none) := by
  cases binding.command.text? with
  | none => exact Or.inr (Or.inr rfl)
  | some spelling =>
    by_cases htext : binding.text = []
    · exact Or.inl ⟨htext, spelling, rfl⟩
    · exact Or.inr (Or.inl htext)

theorem resultPoints_of_text? {spelling : Text} (htext : binding.text = [])
    (hspelling : binding.command.text? = some spelling) (decode : Bytes → Except Fault Points) :
    binding.resultPoints decode = .ok spelling.points := by
  rw [resultPoints, htext, hspelling]

theorem resultPoints_of_sent (h : binding.text ≠ [] ∨ binding.command.text? = none)
    (decode : Bytes → Except Fault Points) :
    binding.resultPoints decode =
      (decode binding.writtenOutput).map fun points ↦ .char '"' :: points ++ [.char '"'] := by
  unfold resultPoints
  split
  · next htext hspelling => simp [htext, hspelling] at h
  · rfl

theorem resultText_of_text? {spelling : Text} (htext : binding.text = [])
    (hspelling : binding.command.text? = some spelling) (encoding : Text) :
    binding.resultText encoding = .ok spelling := by
  rw [resultText, resultPoints_of_text? htext hspelling]
  exact Points.characters_points spelling

/-- Output stands between quotes, as the encoding reads it. -/
theorem resultText_of_sent (h : binding.text ≠ [] ∨ binding.command.text? = none)
    (encoding : Text) :
    binding.resultText encoding =
      (Encoding.decodeAs encoding binding.writtenOutput).map fun text ↦ '"' :: text ++ ['"'] := by
  rw [resultText, resultPoints_of_sent h, decoder]
  cases Encoding.decodeAs encoding binding.writtenOutput with
  | error fault => rfl
  | ok text =>
    have hpoints : CodePoint.char '"' :: Text.points text ++ [.char '"'] =
        Text.points ('"' :: text ++ ['"']) := by simp
    exact (congrArg Points.characters hpoints).trans (Points.characters_points _)

/-- No surrogate comes from one of the four encodings. -/
theorem resultPoints_decoder (binding : Binding) (encoding : Text) :
    binding.resultPoints (decoder encoding) = (binding.resultText encoding).map Text.points := by
  rcases binding.text?_cases with ⟨htext, spelling, hspelling⟩ | hsent
  · rw [resultText_of_text? htext hspelling, resultPoints_of_text? htext hspelling]
    rfl
  · rw [resultText_of_sent hsent, resultPoints_of_sent hsent, decoder]
    cases Encoding.decodeAs encoding binding.writtenOutput with
    | error fault => rfl
    | ok text => simp [Except.map]

/-! ### Lines -/

/-- The parts of a line. -/
theorem linePoints_eq_ok_iff {decode : Bytes → Except Fault Points} {line : Points} :
    binding.linePoints decode = .ok line ↔
      ∃ condition result, binding.toCondition.points = .ok condition ∧
        binding.resultPoints decode = .ok result ∧
        line = Text.points "key ".toList ++ condition ++ Text.points " : ".toList ++ result := by
  constructor
  · intro h
    obtain ⟨condition, hcondition, h⟩ := bind_eq_ok_iff.mp h
    obtain ⟨result, hresult, h⟩ := bind_eq_ok_iff.mp h
    exact ⟨condition, result, hcondition, hresult, (Except.ok.inj h).symm⟩
  · rintro ⟨condition, result, hcondition, hresult, rfl⟩
    rw [linePoints, hcondition, hresult]
    rfl

/-- The parts of the written form of a line. -/
theorem line_eq_ok_iff {encoding text : Text} :
    binding.line encoding = .ok text ↔
      ∃ written result, binding.toCondition.text = .ok written ∧
        binding.resultText encoding = .ok result ∧
        text = "key ".toList ++ written ++ " : ".toList ++ result := by
  rw [line, Points.bind_characters_eq_ok_iff, linePoints_eq_ok_iff, resultPoints_decoder]
  constructor
  · rintro ⟨condition, points, hcondition, hresult, heq⟩
    have htext := Points.characters_eq_ok_iff.mpr heq.symm
    obtain ⟨front, result, hfront, hback, rfl⟩ := Points.characters_append_eq_ok_iff.mp htext
    obtain ⟨first, colon, hfirst, hcolon, rfl⟩ := Points.characters_append_eq_ok_iff.mp hfront
    obtain ⟨word, written, hword, hwritten, rfl⟩ := Points.characters_append_eq_ok_iff.mp hfirst
    rw [Points.characters_points] at hword hcolon
    obtain rfl := Except.ok.inj hword
    obtain rfl := Except.ok.inj hcolon
    refine ⟨written, result, ?_, ?_, rfl⟩
    · rw [Condition.text, hcondition]
      exact hwritten
    · rw [resultText, resultPoints_decoder, hresult]
      exact hback
  · rintro ⟨written, result, hwritten, hresult, rfl⟩
    refine ⟨written.points, result.points, Points.bind_characters_eq_ok_iff.mp hwritten, ?_, ?_⟩
    · rw [hresult]
      rfl
    · simp only [Text.points_append]

end Binding

namespace Layout

variable {binding : Binding} {others : Codecs} {use : EncodingUse} {name : Text}
  {encoding : Encoding}

theorem bindingLine_eq_ok_iff {line : Text} :
    bindingLine binding name = .ok line ↔
      ∃ written result, binding.toCondition.text = .ok written ∧
        binding.resultText name = .ok result ∧
        line = "key ".toList ++ written ++ " : ".toList ++ result ++ ['\n'] := by
  rw [bindingLine, map_eq_ok_iff]
  constructor
  · rintro ⟨body, hbody, rfl⟩
    obtain ⟨written, result, hwritten, hresult, rfl⟩ := Binding.line_eq_ok_iff.mp hbody
    exact ⟨written, result, hwritten, hresult, rfl⟩
  · rintro ⟨written, result, hwritten, hresult, rfl⟩
    exact ⟨_, Binding.line_eq_ok_iff.mpr ⟨written, result, hwritten, hresult, rfl⟩, rfl⟩

/-- Saving reads output just as printing does, in the four encodings. -/
theorem decodeAs_eq_decoder (hname : Encoding.find use name = .ok encoding) :
    Codec.decodeAs others name = Binding.decoder name := by
  funext bytes
  rw [Codec.decodeAs_of_find (Codec.find_of_encoding hname), Binding.decoder,
    Encoding.decodeAs_of_find hname]
  cases bytes with
  | nil => cases encoding <;> rfl
  | cons byte rest => rfl

/-- What is saved of a binding is its written line. -/
theorem linePoints_eq_ok_iff (hname : Encoding.find use name = .ok encoding) {line : Text} :
    linePoints others name binding = .ok line.points ↔ bindingLine binding name = .ok line := by
  rw [linePoints, decodeAs_eq_decoder hname, bindingLine, map_eq_ok_iff, map_eq_ok_iff]
  constructor
  · rintro ⟨points, hpoints, heq⟩
    have htext := Points.characters_eq_ok_iff.mpr heq
    obtain ⟨front, back, hfront, hback, rfl⟩ := Points.characters_append_eq_ok_iff.mp htext
    obtain rfl : ['\n'] = back :=
      Except.ok.inj ((Points.characters_points ['\n']).symm.trans hback)
    exact ⟨front, bind_eq_ok_iff.mpr ⟨points, hpoints, hfront⟩, rfl⟩
  · rintro ⟨body, hbody, rfl⟩
    exact ⟨body.points, Points.bind_characters_eq_ok_iff.mp hbody,
      (Text.points_append body ['\n']).symm⟩

theorem bindingLines_of_linePoints (hname : Encoding.find use name = .ok encoding)
    {bindings : List Binding} {lines : List Text}
    (h : bindings.map (linePoints others name) = lines.map fun line ↦ .ok line.points) :
    (bindings.map fun b ↦ bindingLine b name) = lines.map .ok := by
  induction bindings generalizing lines with
  | nil =>
    obtain rfl := List.map_eq_nil_iff.mp h.symm
    rfl
  | cons binding rest ih =>
    obtain ⟨line, more, rfl, hline, hmore⟩ := List.map_eq_cons_iff.mp h.symm
    rw [List.map_cons, List.map_cons, (linePoints_eq_ok_iff hname).mp hline.symm, ih hmore.symm]

theorem titleLine_eq (title : Text) :
    titleLine title = "keyboard \"".toList ++ title ++ ['"'] ++ ['\n'] := by
  have hback : "\"\n".toList = ['"'] ++ ['\n'] := by decide
  exact (congrArg ("keyboard \"".toList ++ title ++ ·) hback).trans (List.append_assoc _ _ _).symm

/-! ### Saving in UTF-8 -/

theorem encodeLines_utf8 (before : List Points) (lines : List Text) :
    encodeLines Encoding.utf8.codec before (lines.map fun line ↦ .ok line.points) =
      (Utf8.encode lines.flatten, .ok ()) := by
  induction lines generalizing before with
  | nil => rfl
  | cons line rest ih =>
    have hencode : Encoding.utf8.codec.encode before line.points = .ok (Utf8.encode line) :=
      Encoding.encodeStrict_utf8 line
    rw [List.map_cons, encodeLines]
    dsimp only
    rw [hencode]
    dsimp only
    rw [ih, List.flatten_cons, Utf8.encode, Utf8.encode, Utf8.encode, List.flatMap_append]

/-- What is put out in full in one of the four encodings is text. -/
theorem exists_texts_of_encodeLines {before : List Points} {lines : List (Except Fault Points)}
    (h : (encodeLines encoding.codec before lines).2 = .ok ()) :
    ∃ texts : List Text, lines = texts.map fun text ↦ .ok text.points := by
  induction lines generalizing before with
  | nil => exact ⟨[], rfl⟩
  | cons line rest ih =>
    cases line with
    | error fault => cases h
    | ok points =>
      rw [encodeLines] at h
      dsimp only at h
      cases hencode : encoding.codec.encode before points with
      | error fault =>
        rw [hencode] at h
        cases h
      | ok bytes =>
        rw [hencode] at h
        obtain ⟨texts, rfl⟩ := ih h
        refine ⟨points.filterMap CodePoint.char? :: texts, ?_⟩
        rw [List.map_cons, ← Encoding.eq_points_of_encodeStrict hencode]

theorem save_of_find {tree : FileTree} {dest : Path} {location : Location}
    (htarget : tree.target dest = .ok location) {codec : Codec}
    (hname : Codec.find others use name = .ok codec) (layout : Layout) :
    save others tree layout dest name =
      (tree.put location (.file (encodeLines codec [] (fileLines others layout name)).1),
        (encodeLines codec [] (fileLines others layout name)).2) := by
  rw [save, Codec.contains_null_of_find hname, if_neg Bool.false_ne_true, htarget]
  dsimp only
  rw [Codec.find_of_find hname]

/-- What is saved without a fault in one of the four encodings is the title and a written line for
each binding. -/
theorem exists_lines_of_save {tree : FileTree} {layout : Layout} {dest : Path}
    (hname : Encoding.find use name = .ok encoding)
    (h : (save others tree layout dest name).2 = .ok ()) :
    ∃ location lines, tree.target dest = .ok location ∧
      (layout.bindings.map fun b ↦ bindingLine b name) = lines.map .ok ∧
      fileLines others layout name =
        (titleLine layout.description :: lines).map fun line ↦ .ok line.points := by
  have hcodec : Codec.find others use name = .ok encoding.codec := Codec.find_of_encoding hname
  cases htarget : tree.target dest with
  | error fault =>
    rw [save, Codec.contains_null_of_find hcodec, if_neg Bool.false_ne_true, htarget] at h
    cases h
  | ok location =>
    rw [save_of_find htarget hcodec] at h
    obtain ⟨texts, htexts⟩ := exists_texts_of_encodeLines h
    have hlines := htexts
    rw [fileLines] at hlines
    cases texts with
    | nil => cases hlines
    | cons first lines =>
      obtain ⟨hfirst, hrest⟩ := List.cons.inj hlines
      obtain rfl := Text.points_inj.mp (Except.ok.inj hfirst)
      exact ⟨location, lines, rfl, bindingLines_of_linePoints hname hrest, htexts⟩

end Layout

end TermKeys
