import GraphPattern.Proofs.Answering

/-!
# Matches in another graph

When a graph is changed, the source of a pattern is put together from the answers
to the same questions, in the same way. To compare the sources before and after
the change, it is enough to look at the answers: which names and values a
variable ranges over, whether a predicate or a value is there, and which nodes
can be picked.

Main statement: a relation of sources that the operators keep, and that holds
wherever a question is answered, holds between the two sources of every pattern.
-/

namespace GraphPattern

/-- A relation of sources that is kept by the operators which put the parts of a pattern
together. -/
structure Source.Congruence (related : Source → Source → Prop) : Prop where
  /-- A source is related to itself. -/
  refl : ∀ source, related source source
  /-- Extensions of related sources are related. -/
  extend : ∀ {source other}, related source other →
    ∀ extension, related (.extend source extension) (.extend other extension)
  /-- Joins of related sources are related. -/
  join : ∀ {left otherLeft right otherRight}, related left otherLeft → related right otherRight →
    related (.join left right) (.join otherLeft otherRight)
  /-- Projections of related sources are related. -/
  project : ∀ {source other}, related source other →
    ∀ kept, related (.project source kept) (.project other kept)

/-- Joins of many sources are related if these are, one by one. -/
theorem Source.Congruence.joinAll {related : Source → Source → Prop}
    (congruence : Congruence related) {α : Type} {list : List α} {build buildOther : α → Source}
    (each : ∀ element ∈ list, related (build element) (buildOther element)) :
    related (.joinAll (list.map build)) (.joinAll (list.map buildOther)) := by
  induction list with
  | nil => exact congruence.refl _
  | cons element rest ih =>
    rw [List.forall_mem_cons] at each
    exact congruence.join each.1 (ih each.2)

namespace Matcher

/-- Two objects of which every question is answered so that sources stay related. -/
structure NodeTransfer (answers : Accessor.Answers) (related : Source → Source → Prop)
    (node other : Value) : Prop where
  /-- The first is an object. -/
  isObject : node.isObject = true
  /-- The second is an object. -/
  isObject_other : other.isObject = true
  /-- A variable can range over the names of either. -/
  names : ∀ {build buildOther : String → Source},
    (∀ name ∈ Node.names node, related (build name) (buildOther name)) →
    related (.union ((Node.names node).map build)) (.union ((Node.names other).map buildOther))
  /-- A variable can range over the values of either under a name. -/
  values : ∀ {name : String}, name ≠ "@id" → ∀ build : Value → Source,
    related (.union ((answers.values node name).map build))
      (.union ((answers.values other name).map build))
  /-- A predicate can be asked for. -/
  hasProperty : ∀ {name : String} {source otherSource : Source}, name ≠ "@id" →
    related source otherSource →
    related (if answers.hasProperty node name then source else .incompatible)
      (if answers.hasProperty other name then otherSource else .incompatible)
  /-- A value can be asked for. -/
  hasValue : ∀ {name : String}, name ≠ "@id" → ∀ value,
    related (if answers.hasValue node name value then .compatible else .incompatible)
      (if answers.hasValue other name value then .compatible else .incompatible)

/-- Two graphs whose nodes can be picked so that sources stay related. -/
structure GraphTransfer (answers : Accessor.Answers) (related : Source → Source → Prop)
    (graph other : List Value) : Prop where
  /-- A variable can range over the nodes of either. -/
  nodes : ∀ {build : Value → Source},
    (∀ node partner, NodeTransfer answers related node partner →
      Node.identifier node = Node.identifier partner → related (build node) (build partner)) →
    related (.union (graph.map build)) (.union (other.map build))
  /-- A node can be asked for by its identifier. -/
  named : ∀ {build : Value → Source},
    (∀ node partner, NodeTransfer answers related node partner →
      related (build node) (build partner)) →
    ∀ identifier, related
      (match firstNamed answers graph identifier with
        | some node => build node
        | none => .incompatible)
      (match firstNamed answers other identifier with
        | some node => build node
        | none => .incompatible)

variable {matcher : Matcher} {declared : List String} {answers : Accessor.Answers}
  {related : Source → Source → Prop} {node other : Value} {name : String}

/-- The sources of an object are related. -/
theorem related_objectSource (gives : matcher.accessor.Gives answers)
    (transfer : NodeTransfer answers related node other) (different : name ≠ "@id")
    (object : Value) :
    related (matcher.objectSource declared node name object)
      (matcher.objectSource declared other name object) := by
  rw [objectSource_eq gives declared transfer.isObject,
    objectSource_eq gives declared transfer.isObject_other]
  cases matcher.objectVariable? declared object with
  | some ranging => exact transfer.values different _
  | none => exact transfer.hasValue different object

/-- The sources of all objects for one predicate are related. -/
theorem related_objectsSource (congruence : Source.Congruence related)
    (gives : matcher.accessor.Gives answers) (transfer : NodeTransfer answers related node other)
    (different : name ≠ "@id") (objects : List Value) :
    related (matcher.objectsSource declared node name objects)
      (matcher.objectsSource declared other name objects) :=
  congruence.joinAll fun object _ => related_objectSource gives transfer different object

/-- The sources of a predicate are related. -/
theorem related_predicateSource (congruence : Source.Congruence related)
    (gives : matcher.accessor.Gives answers) (transfer : NodeTransfer answers related node other)
    {pattern : Value} (described : pattern.isObject = true) (inNames : name ∈ Node.names pattern) :
    related (matcher.predicateSource declared node pattern name)
      (matcher.predicateSource declared other pattern name) := by
  rw [predicateSource_eq gives declared transfer.isObject described,
    predicateSource_eq gives declared transfer.isObject_other described]
  by_cases ranging : matcher.isVariable declared name = true
  · rw [if_pos ranging, if_pos ranging]
    refine transfer.names fun predicate isPredicate => congruence.extend ?_ _
    exact related_objectsSource congruence gives transfer (Node.ne_id_of_mem_names isPredicate) _
  · rw [if_neg ranging, if_neg ranging]
    have different := Node.ne_id_of_mem_names inNames
    exact transfer.hasProperty different
      (related_objectsSource congruence gives transfer different _)

/-- The sources of all predicates of a subject are related. -/
theorem related_predicatesSource (congruence : Source.Congruence related)
    (gives : matcher.accessor.Gives answers) (transfer : NodeTransfer answers related node other)
    {pattern : Value} (described : pattern.isObject = true) :
    related (matcher.predicatesSource declared node pattern)
      (matcher.predicatesSource declared other pattern) :=
  congruence.joinAll fun _ inNames =>
    related_predicateSource congruence gives transfer described inNames

variable {graph otherGraph : List Value}

/-- The sources of a subject are related. -/
theorem related_subjectSource (congruence : Source.Congruence related)
    (gives : matcher.accessor.Gives answers)
    (transfer : GraphTransfer answers related graph otherGraph)
    {pattern : Value} (described : pattern.isObject = true) :
    related (matcher.subjectSource declared graph pattern)
      (matcher.subjectSource declared otherGraph pattern) := by
  have predicates : ∀ node partner, NodeTransfer answers related node partner →
      related (matcher.predicatesSource declared node pattern)
        (matcher.predicatesSource declared partner pattern) := fun _ _ transfer =>
    related_predicatesSource congruence gives transfer described
  rw [subjectSource_eq gives, subjectSource_eq gives]
  cases matcher.asVariable? declared (Node.identifier pattern) with
  | some name =>
    refine transfer.nodes fun node partner transfer sameIdentifier => ?_
    rw [sameIdentifier]
    exact congruence.extend (predicates node partner transfer) _
  | none => exact transfer.named predicates _

/-- A relation of sources that answers and operators keep holds between the sources of a
pattern. -/
theorem related_patternSource (congruence : Source.Congruence related)
    (gives : matcher.accessor.Gives answers)
    (transfer : GraphTransfer answers related graph otherGraph)
    {pattern : List Value} (described : ∀ subject ∈ pattern, subject.isObject = true) :
    related (matcher.patternSource declared graph pattern)
      (matcher.patternSource declared otherGraph pattern) :=
  congruence.project (congruence.joinAll fun subject member =>
    related_subjectSource congruence gives transfer (described subject member)) _

end Matcher

end GraphPattern
