import TermKeys.Number.Binary
import TermKeys.Text.Quoted

/-!
JSON values. Whole numbers are kept apart from the others, and the fields of an object stand in
the order in which their names first occurred.
-/

set_option autoImplicit false

namespace TermKeys

/-- A JSON value. -/
inductive Json
  | null
  | bool (value : Bool)
  | whole (value : Int)
  | number (value : Binary)
  | string (value : Text)
  | list (items : List Json)
  | object (fields : List (Text × Json))
deriving Repr

/-- The values that hold others. -/
inductive Container
  | list
  | object
deriving DecidableEq, Repr

namespace Json

/-- The fields of an object with one set, in the position of an earlier one of that name. -/
def setField (name : Text) (value : Json) : List (Text × Json) → List (Text × Json)
  | [] => [(name, value)]
  | field :: rest =>
    if field.1 = name then (name, value) :: rest else field :: setField name value rest

/-- The value of the field of a name. -/
def field? (name : Text) (fields : List (Text × Json)) : Option Json := fields.lookup name

mutual

/-- A value as it is shown inside another one: texts are in quoted form. -/
def nested : Json → Text
  | null => "None".toList
  | bool true => "True".toList
  | bool false => "False".toList
  | whole value => Text.ofInt value
  | number value => value.text
  | string value => Text.quoted value
  | list items => '[' :: nestedItems items ++ [']']
  | object fields => '\x7b' :: nestedFields fields ++ ['\x7d']

/-- The items of a list with commas between them. -/
def nestedItems : List Json → Text
  | [] => []
  | [item] => nested item
  | item :: rest => nested item ++ ", ".toList ++ nestedItems rest

/-- The fields of an object with commas between them. -/
def nestedFields : List (Text × Json) → Text
  | [] => []
  | [(name, value)] => Text.quoted name ++ ": ".toList ++ nested value
  | (name, value) :: rest =>
    Text.quoted name ++ ": ".toList ++ nested value ++ ", ".toList ++ nestedFields rest

end

/-- A value as a text: a text stands for itself, and any other value is shown. -/
def display : Json → Text
  | string value => value
  | value => nested value

end Json

end TermKeys
