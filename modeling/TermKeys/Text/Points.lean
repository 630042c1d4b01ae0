import TermKeys.Text.Quoted

/-!
Texts in which surrogates may stand. A surrogate is a code point but no character: no encoding has
it, so a text with one can be made and not be written. Such texts come from key codes and from the
decoders of encodings; what is read of a layout file has none.
-/

set_option autoImplicit false

namespace TermKeys

/-- A code point: a character, or a surrogate with its place among the surrogates. -/
inductive CodePoint
  | char (c : Char)
  | surrogate (place : Fin 0x800)
deriving DecidableEq, Repr

namespace CodePoint

/-- The number of a code point. -/
def toNat : CodePoint → Nat
  | char c => c.toNat
  | surrogate place => 0xD800 + place

/-- The code point with a number, if there is one. -/
def ofNat? (n : Nat) : Option CodePoint :=
  if n.isValidChar then some (char (Char.ofNat n))
  else if h : 0xD800 ≤ n ∧ n < 0xE000 then some (surrogate ⟨n - 0xD800, by omega⟩)
  else none

theorem ofNat?_toNat (c : Char) : ofNat? c.toNat = some (char c) := by
  have hvalid : c.toNat.isValidChar := c.valid
  rw [ofNat?, if_pos hvalid, Char.ofNat_toNat]

theorem eq_ofNat_of_ofNat? {n : Nat} {c : Char} (h : ofNat? n = some (char c)) :
    c = Char.ofNat n := by
  unfold ofNat? at h
  split at h
  · exact (char.inj (Option.some.inj h)).symm
  · split at h <;> cases h

theorem ofNat?_eq_surrogate_iff {n : Nat} {place : Fin 0x800} :
    ofNat? n = some (surrogate place) ↔ n = 0xD800 + place := by
  have hplace := place.isLt
  unfold ofNat?
  split
  · next hvalid =>
    have hbound : n < 0xD800 ∨ 0xDFFF < n ∧ n < 0x110000 := hvalid
    simp only [Option.some.injEq, reduceCtorEq, false_iff]
    omega
  · split
    · rw [Option.some.injEq, surrogate.injEq, Fin.ext_iff]
      dsimp only
      omega
    · simp only [reduceCtorEq, false_iff]
      omega

/-- There is no code point from here on. -/
theorem ofNat?_eq_none_iff {n : Nat} : ofNat? n = none ↔ 0x110000 ≤ n := by
  unfold ofNat?
  split
  · next hvalid =>
    have hbound : n < 0xD800 ∨ 0xDFFF < n ∧ n < 0x110000 := hvalid
    simp only [reduceCtorEq, false_iff]
    omega
  · next hvalid =>
    have hbound : ¬(n < 0xD800 ∨ 0xDFFF < n ∧ n < 0x110000) := hvalid
    split
    · simp only [reduceCtorEq, false_iff]
      omega
    · simp only [true_iff]
      omega

/-- The character that a code point is, if it is one. -/
def char? : CodePoint → Option Char
  | char c => some c
  | surrogate _ => none

end CodePoint

/-- A text in which surrogates may stand. -/
abbrev Points := List CodePoint

/-- A text as code points. -/
def Text.points (text : Text) : Points := text.map CodePoint.char

@[simp] theorem Text.points_nil : points [] = [] := rfl

@[simp] theorem Text.points_cons (c : Char) (text : Text) :
    points (c :: text) = .char c :: text.points := rfl

@[simp] theorem Text.points_append (first second : Text) :
    (first ++ second).points = first.points ++ second.points := List.map_append

@[simp] theorem Text.filterMap_points (text : Text) :
    text.points.filterMap CodePoint.char? = text := by
  induction text with
  | nil => rfl
  | cons c rest ih => rw [points_cons, List.filterMap_cons_some (by rfl), ih]

theorem Text.points_inj {first second : Text} : first.points = second.points ↔ first = second :=
  ⟨fun h ↦ by rw [← filterMap_points first, h, filterMap_points], congrArg points⟩

end TermKeys
