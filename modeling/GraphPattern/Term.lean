import GraphPattern.Text.Search
import GraphPattern.Value.Basic

/-!
# Kinds of graph values

Every graph value is of exactly one kind. A bare text is an identifier, one
that starts with the blank prefix names a blank node, and an object is known by
its `@value` or `@id` member. Whatever else there is counts as a literal.
-/

namespace GraphPattern

/-- The kinds of graph values. -/
inductive TermKind where
  /-- A bare identifier. -/
  | iri
  /-- An identifier with the blank prefix. -/
  | blankNode
  /-- A value that is neither an identifier nor an object with `@value` or `@id`. -/
  | literal
  /-- An object with `@value`. -/
  | valueObject
  /-- An object with `@id` and nothing else. -/
  | nodeReference
  /-- An object with `@id` and further members. -/
  | node
  deriving DecidableEq

/-- The word for a kind. -/
def TermKind.name : TermKind → String
  | iri => "iri"
  | blankNode => "blank_node"
  | literal => "literal"
  | valueObject => "value_object"
  | nodeReference => "node_reference"
  | node => "node"

/-- The prefix of blank node labels in documents. -/
def blankPrefix : String := "_:"

/-- Whether an identifier starts with the prefix of blank nodes. -/
def isBlankNode (identifier start : String) : Bool := Text.startsWith start identifier

/-- The kind of a value, where identifiers with the given prefix name blank nodes. -/
def termKind (start : String) : Value → TermKind
  | .text identifier => if isBlankNode identifier start then .blankNode else .iri
  | .object members =>
    if Entries.has members "@value" then .valueObject
    else if Entries.has members "@id" then
      if members.length = 1 then .nodeReference else .node
    else .literal
  | _ => .literal

/-- The identifier that a value names: a bare text names itself, and an object without `@value`
names its `@id` if that is a text. -/
def identifierOf : Value → Option String
  | .text identifier => some identifier
  | .object members =>
    if Entries.has members "@value" then none else (Entries.get? members "@id").bind Value.text?
  | _ => none

end GraphPattern
