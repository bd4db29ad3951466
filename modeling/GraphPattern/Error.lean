import GraphPattern.Value.Literal

/-!
# Errors

An error is its cause. The kind and the wording that a caller sees are computed
from the cause, each in one function. Errors that come from outside, such as
those of a caller's own action, carry the kind and the wording they came with.
-/

namespace GraphPattern

/-- The failure of a graph accessor to answer a question about a node. -/
structure AccessError where
  /-- What went wrong. -/
  message : String
  /-- The identifier of the node, null when it is not known. -/
  nodeId : Value
  /-- The predicate that was asked about, if there is one. -/
  predicate : Option Value

/-- One step from a record to the field that a complaint is about. -/
inductive LocationStep where
  /-- A named field. -/
  | field (name : String)
  /-- An item of a list field. -/
  | item (index : Nat)

/-- What is wrong with a field. -/
inductive Complaint where
  /-- A required field is absent. -/
  | missing
  /-- The field is no list. -/
  | notList
  /-- The field is no text. -/
  | notText
  /-- The field cannot be called. -/
  | notCallable
  /-- The field is none of the allowed words. -/
  | notAllowed
  /-- The field is a text or whole number that stands for no truth value. -/
  | unreadableTruth
  /-- The field is of a kind that no truth value has. -/
  | notTruth
  /-- The field has the right kind and an unacceptable value. -/
  | unacceptable (reason : String)

/-- A complaint about one field. -/
structure Issue where
  /-- The way to the field. -/
  location : List LocationStep
  /-- What is wrong with it. -/
  complaint : Complaint

/-- The causes of errors. -/
inductive Error where
  /-- A graph accessor failed. -/
  | access (error : AccessError)
  /-- A document or pattern could not be flattened; the role tells which one it was. -/
  | normalization (message : String) (role : String)
  /-- Faults were observed while a source was enumerated. -/
  | enumeration (faults : List Error) (message : String)
  /-- A record was refused. -/
  | validation (issues : List Issue)
  /-- A name is absent from a mapping. -/
  | missingKey (key : String)
  /-- A source was to be repeated a negative number of times. -/
  | negativeTimes (times : Int)
  /-- A label was to be registered twice. -/
  | labelInUse (label : String)
  /-- A value is the name of no fault policy. -/
  | unknownPolicy (value : Value)
  /-- A text names no logging level. -/
  | unknownLevel (name : String)
  /-- A value is no logging level. -/
  | notLevel (value : Value)
  /-- A value that cannot be gone through was to be gone through. -/
  | notIterable (value : Value)
  /-- A member was looked up in a value that is no object. -/
  | notObject (value : Value)
  /-- The start of a text was looked for in a value that is none. -/
  | notTextual (value : Value)
  /-- An expression of no known variant was to be enumerated. -/
  | unknownSource
  /-- A place beyond the end of a list was read. -/
  | beyondEnd
  /-- An operation does not apply to the kinds of its operands. -/
  | unsupported (message : String)
  /-- An error of the caller's own. -/
  | foreign (kind message : String)

/-- The failure of an accessor about which nothing more is known. -/
def AccessError.ofMessage (message : String) : AccessError := ⟨message, .null, none⟩

namespace Error

/-- The name of an error's kind. -/
def kind : Error → String
  | access _ => "GraphAccessError"
  | normalization _ _ => "NormalizationError"
  | enumeration _ _ => "EnumerationError"
  | validation _ => "ValidationError"
  | missingKey _ => "KeyError"
  | negativeTimes _ | labelInUse _ | unknownPolicy _ | unknownLevel _ => "ValueError"
  | notLevel _ | notIterable _ | unknownSource | unsupported _ => "TypeError"
  | notObject _ | notTextual _ => "AttributeError"
  | beyondEnd => "IndexError"
  | foreign kind _ => kind

/-- The wording of an error. -/
def message : Error → String
  | access error => error.message
  | normalization message _ => message
  | enumeration _ message => message
  | validation issues => toString issues.length ++ " validation errors"
  | missingKey key => Text.quoted key
  | negativeTimes times => "times must be non-negative, got " ++ toString times
  | labelInUse label => "a match labelled '" ++ label ++ "' is already registered"
  | unknownPolicy value => value.literal ++ " is not a valid FaultPolicy"
  | unknownLevel name => "Unknown level: " ++ Text.quoted name
  | notLevel value => "Level not an integer or a valid string: " ++ value.literal
  | notIterable value => "'" ++ value.typeName ++ "' object is not iterable"
  | notObject value => "'" ++ value.typeName ++ "' object has no attribute 'get'"
  | notTextual value => "'" ++ value.typeName ++ "' object has no attribute 'startswith'"
  | unknownSource => "Unknown binding source"
  | beyondEnd => "list index out of range"
  | unsupported message => message
  | foreign _ message => message

/-- An error as reports show it: its kind and its wording. -/
def described (error : Error) : String := error.kind ++ ": " ++ error.message

/-- The wording that sums up the faults of an enumeration. -/
def faultSummary : List Error → String
  | [] => "Enumeration failed"
  | [fault] => "Enumeration fault: " ++ fault.message
  | fault :: rest =>
    toString (rest.length + 1) ++ " enumeration faults, last: " ++
      ((fault :: rest).getLast (by simp)).message

/-- The error that stands for observed faults. -/
def ofFaults (faults : List Error) : Error := enumeration faults (faultSummary faults)

end Error

/-- The items a value offers, or the error of going through a value that offers none. -/
def Value.elements (value : Value) : Except Error (List Value) :=
  match value.elements? with
  | some items => .ok items
  | none => .error (.notIterable value)

/-- The member of an object with a given name, null when it is absent, or the error of looking
into a value that is no object. -/
def Value.member (value : Value) (key : String) : Except Error Value :=
  match value with
  | .object members => .ok ((Entries.get? members key).getD .null)
  | other => .error (.notObject other)

end GraphPattern
