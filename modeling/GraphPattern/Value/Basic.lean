import GraphPattern.Entries
import GraphPattern.Number.Double

/-!
# Graph values

Documents, patterns and the values that variables take are all plain JSON
values. Objects keep the order of their members, since that order is the order
in which predicates are matched. A number written without a point is a whole
number of any size; the others are doubles.
-/

namespace GraphPattern

/-- A JSON value. -/
inductive Value where
  /-- The absent value. -/
  | null
  /-- A truth value. -/
  | bool (truth : Bool)
  /-- A whole number. -/
  | int (number : Int)
  /-- A number written with a point or an exponent. -/
  | double (number : Double)
  /-- A text. -/
  | text (chars : String)
  /-- Values in order. -/
  | list (items : List Value)
  /-- Named values in order. -/
  | object (members : List (String × Value))
  deriving Inhabited

namespace Value

/-- The word that messages use for the kind of a value. -/
def typeName : Value → String
  | null => "NoneType"
  | bool _ => "bool"
  | int _ => "int"
  | double _ => "float"
  | text _ => "str"
  | list _ => "list"
  | object _ => "dict"

/-- Whether a value is an object. -/
def isObject : Value → Bool
  | object _ => true
  | _ => false

/-- Whether a value is a list. -/
def isList : Value → Bool
  | list _ => true
  | _ => false

/-- The text that a value is, if it is one. -/
def text? : Value → Option String
  | text chars => some chars
  | _ => none

/-- The member of an object with a given name. -/
def member? (value : Value) (key : String) : Option Value :=
  match value with
  | object members => Entries.get? members key
  | _ => none

/-- The value as a list: a list is itself and any other value stands alone. -/
def toList : Value → List Value
  | list items => items
  | value => [value]

/-- What a value offers one by one: the items of a list, the names of an object, the characters
of a text. Other values offer nothing to go through. -/
def elements? : Value → Option (List Value)
  | list items => some items
  | object members => some ((Entries.keys members).map text)
  | text chars => some (chars.toList.map fun c => text (String.singleton c))
  | _ => none

/-- Whether a value counts as not given: null, false, zero, and whatever is empty. -/
def isVoid : Value → Bool
  | null => true
  | bool truth => !truth
  | int number => number == 0
  | double number => number.magnitude == .whole 0
  | text chars => chars.isEmpty
  | list items => items.isEmpty
  | object members => members.isEmpty

/-- The exact number that a value stands for; true counts as one and false as zero. -/
def magnitude? : Value → Option Magnitude
  | bool truth => some (.whole (if truth then 1 else 0))
  | int number => some (.whole number)
  | double number => some number.magnitude
  | _ => none

/-- The whole number that a value stands for, if it is a truth value or a whole number. -/
def integer? : Value → Option Int
  | bool truth => some (if truth then 1 else 0)
  | int number => some number
  | _ => none

mutual

/-- Every object in the value, at any depth, has distinct names. -/
def WellFormed : Value → Prop
  | list items => WellFormedItems items
  | object members => (Entries.keys members).Nodup ∧ WellFormedMembers members
  | _ => True

/-- Every item is well formed. -/
def WellFormedItems : List Value → Prop
  | [] => True
  | item :: rest => item.WellFormed ∧ WellFormedItems rest

/-- Every member's value is well formed. -/
def WellFormedMembers : List (String × Value) → Prop
  | [] => True
  | (_, value) :: rest => value.WellFormed ∧ WellFormedMembers rest

end

end Value

end GraphPattern
