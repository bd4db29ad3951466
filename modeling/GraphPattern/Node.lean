import GraphPattern.Comparison

/-!
# Reading nodes

A node is an object whose members other than `@id` are its predicates. Graphs
may hold other values in the place of nodes, and patterns other values than
texts in the place of predicates, and each way of reading has its own answer
for them. A predicate is first looked for: in an object as a name, in a text as
a part of it and in a list as an item. What is found in a text or list is then
read as if it were the place of an item, which only a whole number can be.
-/

namespace GraphPattern

namespace Node

/-- Why a predicate cannot be read from a value that stands for a node. -/
inductive Misreading where
  /-- The value can hold nothing. -/
  | holdsNothing (node : Value)
  /-- The predicate cannot be looked up among names. -/
  | notName (predicate : Value)
  /-- The predicate cannot be a part of a text. -/
  | notPart (predicate : Value)
  /-- The value has no members. -/
  | noMembers (node : Value)
  /-- The predicate is no place in the value. -/
  | notPlace (node predicate : Value)
  /-- The place lies outside the list. -/
  | outside

/-- What is said of a misreading. -/
def Misreading.complaint : Misreading → String
  | holdsNothing node => "argument of type '" ++ node.typeName ++ "' is not iterable"
  | notName predicate => "unhashable type: '" ++ predicate.typeName ++ "'"
  | notPart predicate =>
    "'in <string>' requires string as left operand, not " ++ predicate.typeName
  | noMembers node => (Error.notObject node).message
  | notPlace (.text _) predicate =>
    "string indices must be integers, not '" ++ predicate.typeName ++ "'"
  | notPlace _ predicate =>
    "list indices must be integers or slices, not " ++ predicate.typeName
  | outside => Error.beyondEnd.message

/-- What an object stores under a predicate, if it is one of the names. A list or object can be no
name. -/
def member? (members : Entries Value) : Value → Except Misreading (Option Value)
  | .text name => .ok (members.get? name)
  | .list items => .error (.notName (.list items))
  | .object entries => .error (.notName (.object entries))
  | _ => .ok none

/-- Whether a predicate occurs in a value that stands for a node. -/
def holds (node predicate : Value) : Except Misreading Bool :=
  match node, predicate with
  | .object members, predicate => (member? members predicate).map Option.isSome
  | .text chars, .text part => .ok (Text.holds chars part)
  | .text _, predicate => .error (.notPart predicate)
  | .list items, predicate => .ok (items.any fun item => item.equal predicate)
  | other, _ => .error (.holdsNothing other)

/-- The values of a predicate, in order. A value that is no list is the only one. -/
def values (node predicate : Value) : Except Misreading (List Value) :=
  match node with
  | .object members => return ((← member? members predicate).map Value.toList).getD []
  | other => do if ← holds other predicate then .error (.noMembers other) else .ok []

/-- The item of a list at a place, counted from its end if it is negative. -/
def itemAt (items : List Value) (place : Int) : Except Misreading Value :=
  match (if place < 0 then place + items.length else place) with
  | .ofNat index =>
    match items[index]? with
    | some item => .ok item
    | none => .error .outside
  | .negSucc _ => .error .outside

/-- What a node stores under a predicate, if it occurs there. -/
def stored? (node predicate : Value) : Except Misreading (Option Value) :=
  match node with
  | .object members => member? members predicate
  | other => do
    if ← holds other predicate then
      match other, predicate.integer? with
      | .list items, some place => return some (← itemAt items place)
      | other, _ => .error (.notPlace other predicate)
    else .ok none

/-- Whether a stored value stands for at least one value of a predicate. -/
def offers : Value → Bool
  | .list items => !items.isEmpty
  | _ => true

/-- Whether a node has a predicate with at least one value. -/
def hasPredicate (node predicate : Value) : Except Misreading Bool :=
  return (← stored? node predicate).any offers

/-- What is stored under a predicate, where an object with `@list` stands for that list. -/
def opened (stored : Value) : Value :=
  match stored.member? "@list" with
  | some items => items
  | none => stored

/-- Whether a value is among stored ones, as documents compare them. A list of values is searched;
a single one is compared, unless a list is searched for. -/
def isAmong (value stored : Value) : Bool :=
  match opened stored with
  | .list items => items.any value.sameInDocument
  | other => !value.isList && value.sameInDocument other

/-- Whether a node has a value among those of a predicate, as documents compare them. -/
def hasInDocument (node predicate value : Value) : Except Misreading Bool :=
  return (← stored? node predicate).any (isAmong value)

/-- The predicates of a node: what it offers other than `@id`, in order. -/
def predicates (node : Value) : Except Error (List Value) := do
  return (← node.elements).filter fun name => !name.equal (.text "@id")

/-- The `@id` of an object, null for anything else. -/
def identifier (node : Value) : Value := (node.member? "@id").getD .null

end Node

end GraphPattern
