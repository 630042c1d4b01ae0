import TermKeys.Encoding.Strict

/-!
Strict writing in an encoding, code point by code point. A text is written just when the encoding
has all its code points, and then the bytes are theirs one after another
(`Encoding.encodeStrict_eq_ok_iff`); so a text is written in parts just as in one piece
(`Encoding.encodeStrict_append_eq_ok_iff`). UTF-8 lacks nothing but surrogates, so the texts that
have a written form are those of characters (`Points.characters_eq_ok_iff`).
-/

set_option autoImplicit false

namespace TermKeys

namespace Encoding

variable {encoding : Encoding} {position : Nat} {points : Points} {bytes : Bytes}

theorem encodeFrom_cons_some {point : CodePoint} {piece : Bytes}
    (h : encoding.encodePoint? point = some piece) (rest : Points) :
    encodeFrom encoding position (point :: rest) =
      (encodeFrom encoding (position + 1) rest).map (piece ++ ·) := by
  rw [encodeFrom, h]

theorem encodeFrom_cons_none {point : CodePoint} (h : encoding.encodePoint? point = none)
    (rest : Points) :
    encodeFrom encoding position (point :: rest) =
      .error (.unencodable encoding point position
        (position + (encoding.lackedRun rest).length)) := by
  rw [encodeFrom, h]

/-- The position of a text makes no difference to its bytes. -/
theorem encodeFrom_eq_ok_iff :
    encodeFrom encoding position points = .ok bytes ↔
      ∃ pieces : List Bytes,
        points.map encoding.encodePoint? = pieces.map some ∧ bytes = pieces.flatten := by
  induction points generalizing position bytes with
  | nil =>
    constructor
    · rintro ⟨⟩
      exact ⟨[], rfl, rfl⟩
    · rintro ⟨pieces, hpieces, rfl⟩
      obtain rfl := List.map_eq_nil_iff.mp hpieces.symm
      rfl
  | cons point rest ih =>
    constructor
    · intro h
      cases hpoint : encoding.encodePoint? point with
      | none =>
        rw [encodeFrom_cons_none hpoint] at h
        cases h
      | some piece =>
        rw [encodeFrom_cons_some hpoint] at h
        obtain ⟨others, hrest, rfl⟩ := map_eq_ok_iff.mp h
        obtain ⟨pieces, hpieces, rfl⟩ := ih.mp hrest
        exact ⟨piece :: pieces, by rw [List.map_cons, List.map_cons, hpoint, hpieces], rfl⟩
    · rintro ⟨pieces, hpieces, rfl⟩
      obtain ⟨piece, others, rfl, hpoint, hothers⟩ := List.map_eq_cons_iff.mp hpieces.symm
      rw [encodeFrom_cons_some hpoint.symm, ih.mpr ⟨others, hothers.symm, rfl⟩]
      rfl

theorem encodeStrict_eq_ok_iff :
    encoding.encodeStrict points = .ok bytes ↔
      ∃ pieces : List Bytes,
        points.map encoding.encodePoint? = pieces.map some ∧ bytes = pieces.flatten :=
  encodeFrom_eq_ok_iff

/-- UTF-8 has every character. -/
theorem encodeStrict_utf8 (text : Text) :
    utf8.encodeStrict text.points = .ok (Utf8.encode text) := by
  refine encodeStrict_eq_ok_iff.mpr ⟨text.map Utf8.encodeChar, ?_, List.flatMap_def⟩
  rw [Text.points, List.map_map, List.map_map]
  rfl

/-- No encoding writes a surrogate. -/
theorem eq_points_of_encodeStrict (h : encoding.encodeStrict points = .ok bytes) :
    points = Text.points (points.filterMap CodePoint.char?) := by
  obtain ⟨pieces, hpieces, -⟩ := encodeStrict_eq_ok_iff.mp h
  clear h
  induction points generalizing pieces with
  | nil => rfl
  | cons point rest ih =>
    obtain ⟨piece, others, -, hpoint, hothers⟩ := List.map_eq_cons_iff.mp hpieces.symm
    cases point with
    | char c =>
      rw [List.filterMap_cons_some (by rfl), Text.points_cons, ← ih others hothers.symm]
    | surrogate place => cases hpoint

end Encoding

namespace Points

@[simp] theorem characters_points (text : Text) : characters text.points = .ok text := by
  rw [characters, Encoding.encodeStrict_utf8, Except.map, Text.filterMap_points]

theorem characters_eq_ok_iff {points : Points} {text : Text} :
    points.characters = .ok text ↔ points = text.points := by
  constructor
  · intro h
    obtain ⟨bytes, hbytes, rfl⟩ := map_eq_ok_iff.mp h
    exact Encoding.eq_points_of_encodeStrict hbytes
  · rintro rfl
    exact characters_points text

theorem characters_append_eq_ok_iff {first second : Points} {text : Text} :
    (first ++ second).characters = .ok text ↔
      ∃ front back, first.characters = .ok front ∧ second.characters = .ok back ∧
        text = front ++ back := by
  simp only [characters_eq_ok_iff]
  constructor
  · intro h
    obtain ⟨front, back, rfl, hfront, hback⟩ := List.map_eq_append_iff.mp h.symm
    exact ⟨front, back, hfront.symm, hback.symm, rfl⟩
  · rintro ⟨front, back, rfl, rfl, rfl⟩
    exact (Text.points_append front back).symm

theorem bind_characters_eq_ok_iff {points : Except Fault Points} {text : Text} :
    points.bind characters = .ok text ↔ points = .ok text.points := by
  simp only [bind_eq_ok_iff, characters_eq_ok_iff, exists_eq_right]

end Points

end TermKeys
