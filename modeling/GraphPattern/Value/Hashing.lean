import GraphPattern.Value.Equality

/-!
# Hashing values

Lists and objects can change, so they cannot stand in a set themselves. What
stands there for a value is its fixed form: a tuple for a list, a set of named
values for an object, and every scalar as it is, so that a number keeps the way
it is written. Fixed forms are compared and hashed as tuples, sets and scalars
are: a set without regard to the order of its elements, a number by its
magnitude.
-/

namespace GraphPattern

/-- A value that cannot change. -/
inductive Fixed where
  /-- The absent value. -/
  | null
  /-- A truth value. -/
  | bool (truth : Bool)
  /-- A whole number. -/
  | int (number : Int)
  /-- A number written with a point or an exponent. -/
  | double (number : Double)
  /-- A text. -/
  | text (chars : String)
  /-- Fixed values in order. -/
  | tuple (items : List Fixed)
  /-- A set of pairs of a name and a fixed value, listed in any order. -/
  | set (pairs : List (String × Fixed))
  deriving Inhabited

/-- How the hash codes of scalars, tuples and sets are made. Numbers that are equal have one code,
and the code of a set does not depend on the order of its elements. -/
structure Hashing where
  /-- The code of the absent value. -/
  null : UInt64
  /-- The code of a number or truth value. -/
  number : Magnitude → UInt64
  /-- The code of a text. -/
  text : String → UInt64
  /-- The code of a tuple, from those of its items. -/
  tuple : List UInt64 → UInt64
  /-- The code of a set, from those of its elements. -/
  set : List UInt64 → UInt64
  /-- The elements of a set may come in any order. -/
  set_perm : ∀ {codes others : List UInt64}, codes.Perm others → set codes = set others

/-- Codes that mix those of items in their order and add those of elements. -/
def Hashing.mixing : Hashing where
  null := 0
  number
    | .whole number => hash number
    | .fraction units => mixHash 1 (hash units)
    | .infinite negative => mixHash 2 (hash negative)
    | .undefined => 3
  text := hash
  tuple codes := codes.foldl mixHash 5
  set codes := codes.foldl (· + ·) 7
  set_perm permuted := permuted.foldl_eq' (fun _ _ _ _ _ => by ac_rfl) 7

namespace Fixed

/-- The exact number that a fixed value stands for. -/
def magnitude? : Fixed → Option Magnitude
  | bool truth => some (.whole (if truth then 1 else 0))
  | int number => some (.whole number)
  | double number => some number.magnitude
  | _ => none

mutual

/-- Whether two fixed values are equal: two sets, if they have as many elements and each element of
the first is in the second. -/
def equal (left right : Fixed) : Bool :=
  match left, right with
  | null, null => true
  | text chars, text others => chars == others
  | tuple items, tuple others => equalItems items others
  | set pairs, set others => pairs.length == others.length && within pairs others
  | left, right =>
    match left.magnitude?, right.magnitude? with
    | some magnitude, some other => magnitude == other
    | _, _ => false

/-- Whether two tuples have equal items throughout. -/
def equalItems (items others : List Fixed) : Bool :=
  match items, others with
  | [], [] => true
  | item :: rest, other :: others => item.equal other && equalItems rest others
  | _, _ => false

/-- Whether every pair is equal to one of the others. -/
def within (pairs others : List (String × Fixed)) : Bool :=
  match pairs with
  | [] => true
  | (name, value) :: rest =>
    (others.any fun other => name == other.1 && value.equal other.2) && within rest others

end

mutual

/-- The hash code of a fixed value. -/
def hash (hashing : Hashing) : Fixed → UInt64
  | null => hashing.null
  | text chars => hashing.text chars
  | tuple items => hashing.tuple (hashItems hashing items)
  | set pairs => hashing.set (hashPairs hashing pairs)
  | bool truth => hashing.number (.whole (if truth then 1 else 0))
  | int number => hashing.number (.whole number)
  | double number => hashing.number number.magnitude

/-- The hash codes of items, in their order. -/
def hashItems (hashing : Hashing) : List Fixed → List UInt64
  | [] => []
  | item :: rest => item.hash hashing :: hashItems hashing rest

/-- The hash codes of pairs, each that of a tuple of its name and its value. -/
def hashPairs (hashing : Hashing) : List (String × Fixed) → List UInt64
  | [] => []
  | (name, value) :: rest =>
    hashing.tuple [hashing.text name, value.hash hashing] :: hashPairs hashing rest

end

end Fixed

namespace Value

mutual

/-- The fixed form of a value. -/
def fixed : Value → Fixed
  | null => .null
  | bool truth => .bool truth
  | int number => .int number
  | double number => .double number
  | text chars => .text chars
  | list items => .tuple (fixedItems items)
  | object members => .set (fixedMembers members)

/-- The fixed forms of items, in their order. -/
def fixedItems : List Value → List Fixed
  | [] => []
  | item :: rest => item.fixed :: fixedItems rest

/-- The fixed forms of members, each with its name. -/
def fixedMembers : List (String × Value) → List (String × Fixed)
  | [] => []
  | (name, value) :: rest => (name, value.fixed) :: fixedMembers rest

end

/-- The hash code of a value is that of its fixed form. -/
def hash (hashing : Hashing) (value : Value) : UInt64 := value.fixed.hash hashing

end Value

end GraphPattern
