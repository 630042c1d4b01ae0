import TermKeys.Condition
import TermKeys.Diagnostic

/-!
Descriptors: conditions as they are written in a layout file, such as `Home-AnyMod+Shift`. A
descriptor is a row of items between signs. An item names a modifier, a mode or a key; the last
sign before a modifier or mode tells whether it has to be present or absent. Nothing in a
descriptor is an error: what names nothing is passed over.
-/

set_option autoImplicit false

namespace TermKeys.Descriptor

open Unicode

/-- A piece of a descriptor, and whether the last sign before it was a minus. -/
structure Item where
  text : Text
  absent : Bool
deriving DecidableEq, Repr

/-- Whether the last sign is a minus after one more character. -/
def signAfter (absent : Bool) (c : Char) : Bool :=
  if c = '+' then false else if c = '-' then true else absent

/-- The item of letters and numbers at the front of a text, which may be empty, and the items
after it, given whether the last sign before the text was a minus. -/
def headAndItems : Bool → Text → Text × List Item
  | _, [] => ([], [])
  | absent, c :: rest =>
    if isAlphanumeric c then
      let (head, items) := headAndItems absent rest
      (c :: head, items)
    else
      let absentNow := signAfter absent c
      let (head, items) := headAndItems absentNow rest
      ([], if head.isEmpty then items else ⟨head, absentNow⟩ :: items)

/-- The items of a descriptor: the runs of letters and numbers, after the first character on
its own if it is neither. -/
def items (descriptor : Text) : List Item :=
  let (head, items) := headAndItems false descriptor
  if head.isEmpty then
    match descriptor with
    | [] => items
    | c :: _ => ⟨[c], false⟩ :: items
  else ⟨head, false⟩ :: items

/-- What an item names. -/
inductive Meaning
  | modifier (modifier : Modifier)
  | mode (mode : Mode)
  | key (code : Nat)
  | unknown
deriving DecidableEq, Repr

/-- The code of the key that an item names, with a remark if it names several. -/
def keyOf (item : Text) : Noted (Option Nat) :=
  match Key.codes item with
  | [] => ⟨none, []⟩
  | [code] => ⟨some code, []⟩
  | code :: _ :: _ => ⟨some code, [.severalKeys item]⟩

/-- What an item names: a modifier before a mode, and a mode before a key. -/
def meaning (item : Text) : Meaning :=
  match Modifier.named? item with
  | some m => .modifier m
  | none =>
    match Mode.named? item with
    | some m => .mode m
    | none =>
      match (keyOf item).value with
      | some code => .key code
      | none => .unknown

/-- The condition with one more item. -/
def apply (condition : Condition) (item : Item) : Condition :=
  match meaning item.text with
  | .modifier m =>
    { condition with
      modifierMask := condition.modifierMask ||| m.bit
      modifiers := if item.absent then condition.modifiers else condition.modifiers ||| m.bit }
  | .mode m =>
    { condition with
      modeMask := condition.modeMask ||| m.bit
      modes := if item.absent then condition.modes else condition.modes ||| m.bit }
  | .key code => { condition with keyCode := code }
  | .unknown => condition

/-- The remarks about one item. -/
def notesOf (item : Item) : List Diagnostic :=
  match meaning item.text with
  | .modifier _ | .mode _ => []
  | .key _ => (keyOf item.text).notes
  | .unknown => [.unknownItem item.text]

/-- The condition that a descriptor adds to an initial one. -/
def decode (descriptor : Text) (initial : Condition) : Noted Condition :=
  ⟨(items descriptor).foldl apply initial, (items descriptor).flatMap notesOf⟩

end TermKeys.Descriptor
