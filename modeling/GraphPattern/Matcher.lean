import GraphPattern.Accessor
import GraphPattern.Log
import GraphPattern.Source.Enumeration

/-!
# Matching patterns

A pattern is written like a graph, with variables in the places of identifiers,
predicates or values. Matching a pattern against a graph gives a source whose
bindings are the ways of filling in the variables. The source follows the
pattern: the subjects of a pattern are joined, and so are the predicates of a
subject and the objects of a predicate. A variable is a union over all it can
stand for. What is no variable must be there, and gives the source with one
empty binding or the source with none.

An identifier is a variable if it is declared or starts with the blank prefix.
Nothing is enumerated while a source is built. A question that the accessor
fails to answer turns the part of the pattern that asked it into a fault, and
the parts beside it are built as ever.
-/

namespace GraphPattern

/-- What matching depends on besides the graph and the pattern. -/
structure Matcher where
  /-- Answers questions about nodes. -/
  accessor : Accessor
  /-- Decides whether values given to one variable agree. -/
  equality : EqualityTest
  /-- The start of identifiers that are variables without being declared. -/
  blankStart : String

namespace Matcher

/-- The writer of the lines that matching logs. -/
def logWriter : String := "ldmatch.matching.matcher"

/-- The matcher of an accessor. Values agree as the accessor compares them, unless another test is
given. -/
def ofAccessor (accessor : Accessor) (equality : Option EqualityTest) (blankStart : String) :
    Matcher :=
  ⟨accessor, equality.getD accessor.compareValues, blankStart⟩

/-- Whether an identifier is a variable. -/
def isVariable (matcher : Matcher) (declared : List String) (identifier : String) : Bool :=
  isBlankNode identifier matcher.blankStart || declared.contains identifier

/-- The variable that a value names as an identifier, if it is one. -/
def asVariable? (matcher : Matcher) (declared : List String) (identifier : Value) : Option String :=
  identifier.text?.filter (matcher.isVariable declared)

/-- The variable that an object of a pattern names, if it names one. -/
def objectVariable? (matcher : Matcher) (declared : List String) (object : Value) :
    Option String :=
  (identifierOf object).filter (matcher.isVariable declared)

/-- Turns the failure of an accessor into a fault and logs it; other errors stay errors. -/
def guarded (part : String) (build : Logged Source) : Logged Source :=
  match build.result with
  | .error (.access error) =>
    ⟨build.trace ++ [⟨logWriter, .debug,
        "Graph access failed while building " ++ part ++ ": " ++ error.message⟩],
      .ok (.failure (.access error))⟩
  | _ => build

/-- The matches of one object of a pattern among the values of a predicate. -/
def matchObject (matcher : Matcher) (declared : List String)
    (subject predicate object : Value) : Logged Source :=
  guarded "_match_object" do
    match matcher.objectVariable? declared object with
    | some name =>
      let values ← Traced.ofExcept (matcher.accessor.getValues subject predicate)
      return .union (values.map fun value => .single (Binding.single name value))
    | none =>
      let present ← Traced.ofExcept (matcher.accessor.hasValue subject predicate object)
      return if present then .compatible else .incompatible

/-- The joined matches of all objects that a pattern has for one predicate. -/
def matchObjects (matcher : Matcher) (declared : List String) (subject predicate : Value)
    (objects : List Value) : Logged Source := do
  return .joinAll (← objects.mapM (matcher.matchObject declared subject predicate))

/-- The matches of one predicate of a pattern. A variable ranges over all predicates of the
subject. -/
def matchPredicate (matcher : Matcher) (declared : List String)
    (subject pattern predicate : Value) : Logged Source :=
  guarded "_match_predicate" do
    let objects ← Traced.ofExcept (matcher.accessor.getValues pattern predicate)
    match matcher.asVariable? declared predicate with
    | some name =>
      let predicates ← Traced.ofExcept (Node.predicates subject)
      let sources ← predicates.mapM fun predicate => do
        let source ← matcher.matchObjects declared subject predicate objects
        return Source.extend source (Binding.single name predicate)
      return .union sources
    | none =>
      if ← Traced.ofExcept (matcher.accessor.hasProperty subject predicate) then
        matcher.matchObjects declared subject predicate objects
      else return .incompatible

/-- The joined matches of all predicates of a pattern subject. -/
def matchPredicates (matcher : Matcher) (declared : List String) (subject pattern : Value) :
    Logged Source := do
  let predicates ← Traced.ofExcept (Node.predicates pattern)
  return .joinAll (← predicates.mapM (matcher.matchPredicate declared subject pattern))

/-- The first of some nodes whose `@id` is the same as an identifier. -/
def findAmong (matcher : Matcher) (identifier : Value) : List Value → Logged (Option Value)
  | [] => return none
  | node :: rest => do
    let name ← Traced.ofExcept (node.member "@id")
    let same ← Traced.ofExcept (matcher.accessor.compareValues (.object [("@id", name)])
      (.object [("@id", identifier)]))
    if same then return some node else findAmong matcher identifier rest

/-- The first node of a graph whose `@id` is the same as an identifier; null names no node. -/
def findSubject (matcher : Matcher) (graph identifier : Value) : Logged (Option Value) :=
  match identifier with
  | .null => return none
  | identifier => do findAmong matcher identifier (← Traced.ofExcept graph.elements)

/-- The matches of one subject of a pattern. A variable ranges over all nodes of the graph. -/
def matchSubject (matcher : Matcher) (declared : List String) (graph pattern : Value) :
    Logged Source :=
  guarded "_match_subject" do
    let identifier ← Traced.ofExcept (pattern.member "@id")
    match matcher.asVariable? declared identifier with
    | some name =>
      let nodes ← Traced.ofExcept graph.elements
      let sources ← nodes.mapM fun node => do
        let source ← matcher.matchPredicates declared node pattern
        let value ← Traced.ofExcept (node.member "@id")
        return Source.extend source (Binding.single name value)
      return .union sources
    | none =>
      match ← matcher.findSubject graph identifier with
      | some node => matcher.matchPredicates declared node pattern
      | none => return .incompatible

/-- The joined matches of all subjects of a pattern. -/
def matchSubjects (matcher : Matcher) (declared : List String) (graph pattern : Value) :
    Logged Source := do
  let subjects ← Traced.ofExcept pattern.elements
  return .joinAll (← subjects.mapM (matcher.matchSubject declared graph))

/-- The matches of a whole pattern, projected onto the declared variables. -/
def matchPattern (matcher : Matcher) (graph pattern : Value) (declared : List String) :
    Logged Source := do
  return .project (← matcher.matchSubjects declared graph pattern) declared

end Matcher

end GraphPattern
