import TermKeys.Proofs.Descriptor

/-!
Descriptors joined by a plus sign. What is read of a descriptor is its items alone, and the sign
that counts for an item is the last one before it. A plus sign ends the item in front of it and
takes back a minus, so a descriptor that begins with a letter or a number has the same items behind
a plus sign as on its own (`items_append_plus`). The two are then decoded one after the other
(`decode_append_plus`).
-/

set_option autoImplicit false

namespace TermKeys.Descriptor

open Unicode

variable {front back : Text}

/-- A descriptor with the items of two others, one after the other, is decoded as they are. -/
theorem decode_of_items_append {whole : Text} (h : items whole = items front ++ items back)
    (initial : Condition) : decode whole initial = (decode front initial).bind (decode back) := by
  rw [decode, h, List.foldl_append, List.flatMap_append]
  rfl

/-- The letters and numbers at the front of a descriptor are its first item, whatever their sign
says. -/
theorem items_of_isAlphanumeric {c : Char} (hc : isAlphanumeric c = true) (rest : Text) :
    items (c :: rest) =
      ⟨(headAndItems false (c :: rest)).1, false⟩ :: (headAndItems false (c :: rest)).2 := by
  rw [items, headAndItems, if_pos hc]
  rfl

theorem items_append_plus (hfront : front ≠ []) {c : Char} (hc : isAlphanumeric c = true)
    (rest : Text) :
    items (front ++ '+' :: c :: rest) = items front ++ items (c :: rest) := by
  have hempty : (headAndItems false (c :: rest)).1.isEmpty = false := by
    rw [headAndItems, if_pos hc]
    rfl
  have hbehind : (headAndItems false ('+' :: c :: rest)).2 = items (c :: rest) := by
    rw [headAndItems_sign (isAlphanumeric_sign (Or.inl rfl)), items_of_isAlphanumeric hc, signAfter,
      if_pos rfl, hempty]
    rfl
  rw [items_append_sign (Or.inl rfl) hfront, hbehind]

/-- Two descriptors with a plus sign between them are decoded one after the other, the second from
the condition that the first gives, and the remarks about them follow in that order. -/
theorem decode_append_plus (hfront : front ≠ []) {c : Char} (hc : isAlphanumeric c = true)
    (rest : Text) (initial : Condition) :
    decode (front ++ '+' :: c :: rest) initial =
      (decode front initial).bind (decode (c :: rest)) :=
  decode_of_items_append (items_append_plus hfront hc rest) initial

/-- A minus sign that is a key, and one that is of no account for the second descriptor. -/
theorem decode_append_plus_minus :
    decode "-meta-+ansi-\u00e9t\u00e9".toList ⟨0x41, 1, 1, 32, 32⟩ =
        (decode "-meta-".toList ⟨0x41, 1, 1, 32, 32⟩).bind (decode "ansi-\u00e9t\u00e9".toList) ∧
      (decode "-meta-+ansi-\u00e9t\u00e9".toList ⟨0x41, 1, 1, 32, 32⟩).value =
        ⟨0x2D, 1, 0x10000001, 34, 34⟩ ∧
      (decode "-meta-+ansi-\u00e9t\u00e9".toList ⟨0x41, 1, 1, 32, 32⟩).notes =
        [.unknownItem "\u00e9t\u00e9".toList] := by
  refine ⟨?_, by decide +kernel⟩
  exact @decode_append_plus "-meta-".toList (by decide) 'a' (by decide)
    "nsi-\u00e9t\u00e9".toList ⟨0x41, 1, 1, 32, 32⟩

end TermKeys.Descriptor
