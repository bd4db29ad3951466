import GraphPattern.Source.Walk
import GraphPattern.Term
import GraphPattern.Value.Equality

/-!
# Comparing graph values

Graph values come in several shapes that mean the same thing, so joins and
lookups do not use plain equality. Scalars are the same when they are equal,
except that a truth value is only the same as a truth value. Value objects are
the same when their types, languages, indexes and values are. Other objects are
the same when they have the same `@id`. Finally, whatever names an identifier is
the same as anything else that names it, so a bare identifier meets a node
reference.

The other tests here ignore all that and suit values of a known form.
-/

namespace GraphPattern

namespace Value

/-- Equality of scalars and lists, where a truth value equals only a truth value. -/
def strictlyEqual (left right : Value) : Bool :=
  match left, right with
  | bool truth, bool other => truth == other
  | bool _, _ | _, bool _ => false
  | left, right => left.equal right

/-- Whether a member has equal values in two objects, an absent one counting as null. -/
def agreesOn (key : String) (left right : Value) : Bool :=
  ((left.member? key).getD null).equal ((right.member? key).getD null)

/-- Whether two value objects with the given values say the same. -/
def sameValueObject (left right value other : Value) : Bool :=
  agreesOn "@type" left right && agreesOn "@language" left right &&
    agreesOn "@index" left right && value.strictlyEqual other

/-- Whether both values are objects and have the same `@id`, which must not be null. -/
def sameNode (left right : Value) : Bool :=
  match left.member? "@id", right.member? "@id" with
  | some null, _ => false
  | some identifier, some other => identifier.equal other
  | _, _ => false

/-- Whether two values of a document say the same: scalars and lists by themselves, two value
objects as such, and other objects by what they name. -/
def sameInDocument (left right : Value) : Bool :=
  if left.isObject || right.isObject then
    match left.member? "@value", right.member? "@value" with
    | some value, some other => sameValueObject left right value other
    | _, _ => sameNode left right
  else left.strictlyEqual right

/-- Whether two values name the same identifier. -/
def sameIdentifier (left right : Value) : Bool :=
  match identifierOf left with
  | some identifier => identifierOf right == some identifier
  | none => false

/-- Whether two graph values are the same. -/
def sameTerm (left right : Value) : Bool := sameInDocument left right || sameIdentifier left right

end Value

namespace EqualityTest

/-- Equality of values as such. -/
def exact : EqualityTest := fun first second => .ok (first.equal second)

/-- Sameness of graph values. -/
def sameTerm : EqualityTest := fun first second => .ok (first.sameTerm second)

/-- No two values are equal. -/
def never : EqualityTest := fun _ _ => .ok false

/-- All values are equal. -/
def always : EqualityTest := fun _ _ => .ok true

/-- Whole numbers are equal when their remainders by a positive number are. -/
def modulo (divisor : Int) : EqualityTest := fun first second =>
  match first.integer?, second.integer? with
  | some number, some other => .ok (number.fmod divisor == other.fmod divisor)
  | none, _ => .error (.unsupported
      ("unsupported operand type(s) for %: '" ++ first.typeName ++ "' and 'int'"))
  | _, none => .error (.unsupported
      ("unsupported operand type(s) for %: '" ++ second.typeName ++ "' and 'int'"))

/-- A whole number counts as equal to every one that is not smaller. -/
def atMost : EqualityTest := fun first second =>
  match first.integer?, second.integer? with
  | some number, some other => .ok (number ≤ other)
  | _, _ => .error (.unsupported
      ("'<=' not supported between instances of '" ++ first.typeName ++ "' and '" ++
        second.typeName ++ "'"))

end EqualityTest

end GraphPattern
