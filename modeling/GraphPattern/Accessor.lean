import GraphPattern.Node

/-!
# Graph accessors

Matching never looks into a document on its own. It asks an accessor, which
flattens documents into lists of nodes and answers questions about nodes. An
accessor may fail to answer; the failure names the node and the predicate. Only a
place outside a list is an error of its own.
-/

namespace GraphPattern

/-- The answers that matching needs about documents and nodes. -/
structure Accessor where
  /-- Flattens a document, under a context if one is given, into its nodes. -/
  flatten : (document : Value) → (context : Option Value) → Except Error (List Value)
  /-- All values of a predicate, in order. -/
  getValues : (node predicate : Value) → Except Error (List Value)
  /-- Whether a node has a value among those of a predicate. -/
  hasValue : (node predicate value : Value) → Except Error Bool
  /-- Whether a node has at least one value of a predicate. -/
  hasProperty : (node predicate : Value) → Except Error Bool
  /-- Whether two values are the same. -/
  compareValues : EqualityTest

namespace Accessor

/-- An answer about a node, with the complaint of a failed reading behind what was tried. -/
def answer {α : Type} (tried : String) (node predicate : Value)
    (reading : Except Node.Misreading α) : Except Error α :=
  reading.mapError fun
    | .outside => .beyondEnd
    | misreading => .access
        ⟨tried ++ " '" ++ predicate.shown ++ "': " ++ misreading.complaint,
          Node.identifier node, some predicate⟩

/-- Whether some item passes a test that may fail, trying no further than the first that does. -/
def anyOf (test : Value → Except Error Bool) : List Value → Except Error Bool
  | [] => .ok false
  | item :: rest => do if ← test item then .ok true else anyOf test rest

/-- The accessor that reads nodes as they stand. A value is found if it is in the document's sense
or if the comparison says so of one of the predicate's values. -/
def reading (flatten : Value → Option Value → Except Error (List Value))
    (compareValues : EqualityTest) : Accessor where
  flatten := flatten
  getValues node predicate := answer "Cannot read" node predicate (Node.values node predicate)
  hasValue node predicate value := do
    let tried := "Cannot test value of"
    if ← answer tried node predicate (Node.hasInDocument node predicate value) then .ok true
    else
      let candidates ← answer tried node predicate (Node.values node predicate)
      anyOf (compareValues value) candidates
  hasProperty node predicate :=
    answer "Cannot test property" node predicate (Node.hasPredicate node predicate)
  compareValues := compareValues

/-- Takes documents as flattened already. One text stands for a document that cannot be read. -/
def flattenStatic (document : Value) (_context : Option Value) : Except Error (List Value) :=
  if document.equal (.text "broken") then .error (.normalization "unparseable document" "input")
  else .ok document.toList

/-- The accessor for documents that are flattened already. -/
def static : Accessor := reading flattenStatic .sameTerm

/-- The questions that an accessor can be made to fail on. -/
inductive Question where
  /-- What are the values of a predicate? -/
  | getValues
  /-- Does a node have a value? -/
  | hasValue
  /-- Does a node have a predicate? -/
  | hasProperty
  /-- Are two values the same? -/
  | compareValues
  deriving DecidableEq

/-- The word for a question. -/
def Question.name : Question → String
  | getValues => "get_values"
  | hasValue => "has_value"
  | hasProperty => "has_property"
  | compareValues => "compare_values"

/-- The accessor for flattened documents that fails on some questions about one node. -/
def failing (identifier : String) (questions : List Question) : Accessor :=
  let unreadable (question : Question) (node : Value) : Bool :=
    questions.contains question &&
      (match node.member? "@id" with
        | some name => name.equal (.text identifier)
        | none => false)
  let failure (question : Question) (predicate : Value) : Error :=
    .access ⟨"unreadable node in " ++ question.name, .text identifier, some predicate⟩
  let compare : EqualityTest := fun first second =>
    if questions.contains .compareValues &&
        (identifierOf first == some identifier || identifierOf second == some identifier) then
      .error (.access ⟨"incomparable node", .text identifier, none⟩)
    else EqualityTest.sameTerm first second
  let sound := reading flattenStatic compare
  { flatten := flattenStatic
    getValues := fun node predicate =>
      if unreadable .getValues node then .error (failure .getValues predicate)
      else sound.getValues node predicate
    hasValue := fun node predicate value =>
      if unreadable .hasValue node then .error (failure .hasValue predicate)
      else sound.hasValue node predicate value
    hasProperty := fun node predicate =>
      if unreadable .hasProperty node then .error (failure .hasProperty predicate)
      else sound.hasProperty node predicate
    compareValues := compare }

end Accessor

end GraphPattern
