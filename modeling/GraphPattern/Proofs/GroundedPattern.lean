import GraphPattern.JsonLd.Flatten
import GraphPattern.Proofs.Answering
import GraphPattern.Proofs.Grounding
import GraphPattern.Proofs.Join
import Mathlib.Data.List.Nodup

/-!
# Replacing a variable of a pattern by an identifier

In a pattern a variable can stand for subjects and for objects. A subject
ranges over the nodes of the graph and an object over the values of a
predicate, and whether the values at several places agree is found out when
sources are joined. An identifier in the same places is treated in other ways:
the subject is looked up, and the object is tested for when the source is
built.

Main statement: the two ways agree. In a flattened graph, a pattern in which a
variable was replaced by an identifier has the matches of the pattern before
for which the value of the variable compares with the identifier, without the
variable.
-/

namespace GraphPattern

/-- The nodes of a graph as flattening leaves them: objects with different texts as their `@id`
and lists under all other names. No item of the lists has both an `@value` and an `@id`. -/
structure Flat (graph : List Value) : Prop where
  /-- Nodes are objects. -/
  object : ∀ node ∈ graph, node.isObject = true
  /-- Nodes have texts as their `@id`. -/
  named : ∀ node ∈ graph, ∃ identifier, node.member? "@id" = some (.text identifier)
  /-- There are lists of plain values under all other names. -/
  listed : ∀ node ∈ graph, ∀ name value, name ≠ "@id" → node.member? name = some value →
    ∃ items, value = .list items ∧ ∀ item ∈ items, item.Plain
  /-- No two nodes have the same `@id`. -/
  distinct : (graph.map Node.identifier).Nodup

namespace Node

/-- A variable is a subject of a pattern, or an object of one of its predicates. -/
def Mentions (name : String) (pattern : Value) : Prop :=
  identifier pattern = .text name ∨
    ∃ predicate ∈ names pattern, ∃ object ∈ valuesOf pattern predicate,
      identifierOf object = some name

section Replacing

variable (name constant : String)

/-- An object of a pattern, where a reference to an identifier replaces a variable. -/
def groundedObject (object : Value) : Value :=
  if identifierOf object = some name then Value.reference constant else object

/-- What a pattern has under a predicate, with every object of it replaced. -/
def groundedObjects : Value → Value
  | .list items => .list (items.map (groundedObject name constant))
  | value => groundedObject name constant value

/-- The `@id` of a subject, where an identifier replaces a variable. -/
def groundedIdentifier (value : Value) : Value :=
  if value.text? = some name then .text constant else value

/-- A subject of a pattern in which an identifier replaces a variable, as the subject and in all
objects. -/
def grounded : Value → Value
  | .object members => .object (members.map fun entry =>
      (entry.1, if entry.1 = "@id" then groundedIdentifier name constant entry.2
        else groundedObjects name constant entry.2))
  | other => other

variable {name constant}

/-- An object that names the variable becomes a reference to the identifier. -/
theorem groundedObject_of_named {object : Value} (named : identifierOf object = some name) :
    groundedObject name constant object = Value.reference constant := if_pos named

/-- Other objects stay as they are. -/
theorem groundedObject_of_not_named {object : Value} (other : identifierOf object ≠ some name) :
    groundedObject name constant object = object := if_neg other

/-- Replacing goes through what stands under a predicate, object by object. -/
theorem toList_groundedObjects (value : Value) :
    (groundedObjects name constant value).toList =
      value.toList.map (groundedObject name constant) := by
  have scalar : ∀ object : Value, object.isList = false →
      (groundedObject name constant object).isList = false := by
    intro object notList
    unfold groundedObject
    by_cases named : identifierOf object = some name
    · rw [if_pos named]
      rfl
    · rw [if_neg named]
      exact notList
  have mapped : groundedObjects name constant value =
      value.mapItems (groundedObject name constant) := by
    cases value <;> rfl
  rw [mapped, Value.toList_mapItems scalar]

/-- Replacing leaves an object one. -/
theorem isObject_grounded {pattern : Value} (described : pattern.isObject = true) :
    (grounded name constant pattern).isObject = true := by
  cases pattern with
  | object members => rfl
  | _ => cases described

/-- Replacing changes no name. -/
theorem names_grounded (pattern : Value) :
    names (grounded name constant pattern) = names pattern := by
  cases pattern with
  | object members =>
    show (Entries.keys (members.map _)).filter _ = (Entries.keys members).filter _
    rw [Entries.keys, List.map_map]
    rfl
  | _ => rfl

/-- What is read of a subject after replacing. -/
theorem member?_grounded (pattern : Value) (key : String) :
    (grounded name constant pattern).member? key =
      (pattern.member? key).map fun value =>
        if key = "@id" then groundedIdentifier name constant value
        else groundedObjects name constant value := by
  cases pattern with
  | object members =>
    exact Entries.get?_map_values (fun key value =>
      if key = "@id" then groundedIdentifier name constant value
      else groundedObjects name constant value) members key
  | _ => rfl

/-- The objects of a predicate are replaced one by one. -/
theorem valuesOf_grounded (pattern : Value) {predicate : String} (different : predicate ≠ "@id") :
    valuesOf (grounded name constant pattern) predicate =
      (valuesOf pattern predicate).map (groundedObject name constant) := by
  unfold valuesOf
  rw [member?_grounded]
  simp only [if_neg different]
  cases pattern.member? predicate with
  | none => rfl
  | some value => exact toList_groundedObjects value

/-- The variable as a subject is replaced. -/
theorem identifier_grounded (pattern : Value) :
    identifier (grounded name constant pattern) =
      groundedIdentifier name constant (identifier pattern) := by
  unfold identifier
  rw [member?_grounded]
  cases pattern.member? "@id" with
  | none => rfl
  | some value => rfl

end Replacing

end Node

namespace Flat

variable {graph : List Value} {node : Value}

/-- Values of a node of a flattened graph are plain. -/
theorem plain_of_mem_valuesOf (flat : Flat graph) (inGraph : node ∈ graph) {name : String}
    (different : name ≠ "@id") {value : Value} (member : value ∈ Node.valuesOf node name) :
    value.Plain := by
  unfold Node.valuesOf at member
  cases held : node.member? name with
  | none =>
    rw [held] at member
    cases member
  | some stored =>
    obtain ⟨items, rfl, plain⟩ := flat.listed node inGraph name stored different held
    rw [held] at member
    exact plain value member

/-- A node of a flattened graph goes by a text. -/
theorem identifier_eq (flat : Flat graph) (inGraph : node ∈ graph) :
    ∃ identifier, Node.identifier node = .text identifier := by
  obtain ⟨identifier, named⟩ := flat.named node inGraph
  exact ⟨identifier, by rw [Node.identifier, named]; rfl⟩

/-- A node of a flattened graph has the value of a reference exactly if one of its values names the
identifier. -/
theorem hasValue_reference_iff (flat : Flat graph) (inGraph : node ∈ graph) {name : String}
    (different : name ≠ "@id") (identifier : String) :
    (Accessor.read Value.sameTerm).hasValue node name (Value.reference identifier) = true ↔
      ∃ value ∈ Node.valuesOf node name, identifierOf value = some identifier := by
  have named : ∀ value ∈ Node.valuesOf node name,
      (Value.reference identifier).sameTerm value = true ↔
        identifierOf value = some identifier := by
    intro value member
    have plain := flat.plain_of_mem_valuesOf inGraph different member
    exact Value.sameTerm_iff_of_identifierOf (.inl rfl) plain (Value.identifierOf_reference _)
  show ((node.member? name).any (Node.isAmong (Value.reference identifier)) ||
    (Node.valuesOf node name).any (Value.reference identifier).sameTerm) = true ↔ _
  rw [Bool.or_eq_true, List.any_eq_true]
  constructor
  · rintro (among | ⟨value, member, same⟩)
    · unfold Node.valuesOf at named ⊢
      cases held : node.member? name with
      | none =>
        rw [held] at among
        cases among
      | some stored =>
        obtain ⟨items, rfl, _⟩ := flat.listed node inGraph name stored different held
        rw [held] at among named
        obtain ⟨value, member, same⟩ := List.any_eq_true.1 among
        refine ⟨value, member, (named value member).1 ?_⟩
        rw [Value.sameTerm, same, Bool.true_or]
    · exact ⟨value, member, (named value member).1 same⟩
  · rintro ⟨value, member, names⟩
    exact .inr ⟨value, member, (named value member).2 names⟩

end Flat

namespace Matcher

variable {matcher : Matcher} {declared : List String} {name constant : String}
  {graph : List Value} {node : Value}

/-- A test that holds finds the empty binding, and one that fails finds nothing. -/
theorem mem_found_test_iff {equal : EqualityTest} {truth : Bool} {binding : Binding} :
    binding ∈ (if truth = true then Source.compatible else Source.incompatible).found equal ↔
      truth = true ∧ binding = .empty := by
  cases truth with
  | true =>
    show binding ∈ [Binding.empty] ↔ _
    simp
  | false =>
    show binding ∈ [] ↔ _
    simp

/-- An object that names a variable is that variable. -/
theorem objectVariable?_of_named {object : Value}
    (declares : matcher.isVariable declared name = true) (named : identifierOf object = some name) :
    matcher.objectVariable? declared object = some name := by
  rw [objectVariable?, named, Option.filter_some, if_pos declares]

/-- A reference to an identifier that is no variable is none. -/
theorem objectVariable?_reference (fixed : matcher.isVariable declared constant = false) :
    matcher.objectVariable? declared (Value.reference constant) = none := by
  rw [objectVariable?, Value.identifierOf_reference, Option.filter_some, if_neg (by simp [fixed])]

/-- Replacing a variable grounds the source of an object: the values that name the identifier are
there exactly if the reference is. -/
theorem grounded_objectSource (gives : matcher.accessor.Gives (Accessor.read Value.sameTerm))
    (flat : Flat graph) (inGraph : node ∈ graph)
    (declares : matcher.isVariable declared name = true)
    (fixed : matcher.isVariable declared constant = false) {predicate : String}
    (different : predicate ≠ "@id") (object : Value) :
    Source.Grounded name constant (matcher.objectSource declared node predicate object)
      (matcher.objectSource declared node predicate
        (Node.groundedObject name constant object)) := by
  have subject := flat.object node inGraph
  by_cases named : identifierOf object = some name
  · rw [Node.groundedObject_of_named named, objectSource_eq gives declared subject,
      objectSource_eq gives declared subject, objectVariable?_of_named declares named,
      objectVariable?_reference fixed]
    dsimp only
    refine ⟨fun binding member => ?_, fun binding member => ?_, fun whole member allows => ?_⟩
    · obtain ⟨value, inValues, found⟩ := Source.mem_found_union_iff.1 member
      rw [Source.mem_found_single_iff.1 found]
      intro held isHeld
      rw [Binding.get?_single, if_pos rfl, Option.some.injEq] at isHeld
      subst isHeld
      exact flat.plain_of_mem_valuesOf inGraph different inValues
    · obtain ⟨present, rfl⟩ := mem_found_test_iff.1 member
      obtain ⟨value, inValues, names⟩ :=
        (flat.hasValue_reference_iff inGraph different constant).1 present
      refine ⟨Binding.single name value,
        Source.mem_found_union_iff.2 ⟨value, inValues, Source.mem_found_single_iff.2 rfl⟩,
        fun held isHeld => ?_, (Binding.without_single name value).symm⟩
      rw [Binding.get?_single, if_pos rfl, Option.some.injEq] at isHeld
      rw [← isHeld]
      exact names
    · obtain ⟨value, inValues, found⟩ := Source.mem_found_union_iff.1 member
      obtain rfl := Source.mem_found_single_iff.1 found
      have names : identifierOf value = some constant := by
        apply allows
        rw [Binding.get?_single, if_pos rfl]
      rw [Binding.without_single]
      have present := (flat.hasValue_reference_iff inGraph different constant).2
        ⟨value, inValues, names⟩
      exact mem_found_test_iff.2 ⟨present, rfl⟩
  · rw [Node.groundedObject_of_not_named named]
    apply Source.Grounded.of_free
    rw [objectSource_eq gives declared subject]
    cases ranging : matcher.objectVariable? declared object with
    | none =>
      intro binding member
      rw [(mem_found_test_iff.1 member).2]
      rfl
    | some other =>
      have otherNamed : identifierOf object = some other := 
        (Option.filter_eq_some_iff.1 ranging).1
      intro binding member
      obtain ⟨value, _, found⟩ := Source.mem_found_union_iff.1 member
      rw [Source.mem_found_single_iff.1 found, Binding.get?_single, if_neg]
      rintro rfl
      exact named otherNamed

/-- Replacing a variable grounds the source of all objects of a predicate. -/
theorem grounded_objectsSource (gives : matcher.accessor.Gives (Accessor.read Value.sameTerm))
    (flat : Flat graph) (inGraph : node ∈ graph)
    (declares : matcher.isVariable declared name = true)
    (fixed : matcher.isVariable declared constant = false) {predicate : String}
    (different : predicate ≠ "@id") (objects : List Value) :
    Source.Grounded name constant (matcher.objectsSource declared node predicate objects)
      (matcher.objectsSource declared node predicate
        (objects.map (Node.groundedObject name constant))) := by
  unfold objectsSource
  rw [List.map_map]
  apply Source.Grounded.joinAll
  intro object _
  exact grounded_objectSource gives flat inGraph declares fixed different object

/-- Replacing a variable grounds the source of a predicate that is not the variable. -/
theorem grounded_predicateSource (gives : matcher.accessor.Gives (Accessor.read Value.sameTerm))
    (flat : Flat graph) (inGraph : node ∈ graph)
    (declares : matcher.isVariable declared name = true)
    (fixed : matcher.isVariable declared constant = false) {pattern : Value}
    (described : pattern.isObject = true) {predicate : String} (different : predicate ≠ "@id")
    (other : predicate ≠ name) :
    Source.Grounded name constant (matcher.predicateSource declared node pattern predicate)
      (matcher.predicateSource declared node (Node.grounded name constant pattern) predicate) := by
  have subject := flat.object node inGraph
  have objects : (Accessor.read Value.sameTerm).values (Node.grounded name constant pattern)
      predicate = ((Accessor.read Value.sameTerm).values pattern predicate).map
        (Node.groundedObject name constant) := Node.valuesOf_grounded pattern different
  rw [predicateSource_eq gives declared subject described,
    predicateSource_eq gives declared subject (Node.isObject_grounded described), objects]
  by_cases ranging : matcher.isVariable declared predicate = true
  · rw [if_pos ranging, if_pos ranging]
    apply Source.Grounded.union
    intro picked inNames
    have pickedDifferent : picked ≠ "@id" := Node.ne_id_of_mem_names inNames
    have grounded := grounded_objectsSource gives flat inGraph declares fixed pickedDifferent
      ((Accessor.read Value.sameTerm).values pattern predicate)
    exact grounded.extend other (.text picked)
  · rw [if_neg ranging, if_neg ranging]
    by_cases present : (Accessor.read Value.sameTerm).hasProperty node predicate = true
    · rw [if_pos present, if_pos present]
      exact grounded_objectsSource gives flat inGraph declares fixed different _
    · rw [if_neg present, if_neg present]
      apply Source.Grounded.of_free
      intro binding member
      cases member

/-- Replacing a variable grounds the source of all predicates of a subject. -/
theorem grounded_predicatesSource (gives : matcher.accessor.Gives (Accessor.read Value.sameTerm))
    (flat : Flat graph) (inGraph : node ∈ graph)
    (declares : matcher.isVariable declared name = true)
    (fixed : matcher.isVariable declared constant = false) {pattern : Value}
    (described : pattern.isObject = true) (noPredicate : name ∉ Node.names pattern) :
    Source.Grounded name constant (matcher.predicatesSource declared node pattern)
      (matcher.predicatesSource declared node (Node.grounded name constant pattern)) := by
  unfold predicatesSource
  rw [Node.names_grounded]
  apply Source.Grounded.joinAll
  intro predicate inNames
  apply grounded_predicateSource gives flat inGraph declares fixed described
  · exact Node.ne_id_of_mem_names inNames
  · rintro rfl
    exact noPredicate inNames

/-- The binding of a subject is plain, since nodes go by texts. -/
theorem plainAt_subject (flat : Flat graph) (inGraph : node ∈ graph) :
    (Binding.single name (Node.identifier node)).PlainAt name := by
  intro value held
  obtain ⟨identifier, named⟩ := flat.identifier_eq inGraph
  rw [Binding.get?_single, if_pos rfl, named, Option.some.injEq] at held
  rw [← held]
  exact Value.plain_text identifier

/-- The binding of a subject names an identifier exactly if the node goes by it. -/
theorem allows_subject_iff (flat : Flat graph) (inGraph : node ∈ graph) :
    (Binding.single name (Node.identifier node)).Allows name constant ↔
      Node.identifier node = .text constant := by
  obtain ⟨identifier, named⟩ := flat.identifier_eq inGraph
  unfold Binding.Allows
  rw [Binding.get?_single, if_pos rfl, named, Value.text.injEq]
  constructor
  · intro allows
    exact Option.some.inj (allows _ rfl)
  · rintro rfl value held
    cases held
    rfl

/-- Replacing a variable as a subject grounds the source: of all nodes that the variable ranges
over, only the one that goes by the identifier is left. -/
theorem grounded_subject (flat : Flat graph) {before after : Value → Source}
    (each : ∀ node ∈ graph, Source.Grounded name constant (before node) (after node)) :
    Source.Grounded name constant
      (.union (graph.map fun node =>
        .extend (before node) (Binding.single name (Node.identifier node))))
      (match firstNamed (Accessor.read Value.sameTerm) graph (.text constant) with
        | some node => after node
        | none => .incompatible) := by
  have taken : ∀ (first : Binding) (value : Value),
      (first.merged (Binding.single name value)).without name = first.without name := by
    intro first value
    rw [Binding.without_merged, Binding.without_single, Binding.merged_empty]
  refine ⟨fun binding member => ?_, fun binding member => ?_, fun whole member allows => ?_⟩
  · obtain ⟨node, inGraph, extended⟩ := Source.mem_found_union_iff.1 member
    obtain ⟨first, found, _, rfl⟩ := Source.mem_found_extend_iff.1 extended
    exact Binding.plainAt_merged ((each node inGraph).plain first found)
      (plainAt_subject flat inGraph)
  · cases sought : firstNamed (Accessor.read Value.sameTerm) graph (.text constant) with
    | none =>
      rw [sought] at member
      cases member
    | some node =>
      rw [sought] at member
      obtain ⟨inGraph, named⟩ := (firstNamed_text_iff flat.distinct constant).1 sought
      obtain ⟨whole, found, allows, rfl⟩ := (each node inGraph).sound binding member
      have subject : (Binding.single name (Node.identifier node)).Allows name constant :=
        (allows_subject_iff flat inGraph).2 named
      have agreeing := (Binding.agrees_without_iff allows subject).1
        (by rw [Binding.without_single]; rfl)
      have plain := (each node inGraph).plain whole found
      refine ⟨_, Source.mem_found_union_iff.2 ⟨node, inGraph,
        Source.mem_found_extend_iff.2 ⟨whole, found, agreeing, rfl⟩⟩, ?_, (taken _ _).symm⟩
      exact (Binding.allows_merged_iff plain (plainAt_subject flat inGraph) agreeing).2
        ⟨allows, subject⟩
  · obtain ⟨node, inGraph, extended⟩ := Source.mem_found_union_iff.1 member
    obtain ⟨first, found, agreeing, rfl⟩ := Source.mem_found_extend_iff.1 extended
    have plain := (each node inGraph).plain first found
    obtain ⟨firstAllows, subject⟩ :=
      (Binding.allows_merged_iff plain (plainAt_subject flat inGraph) agreeing).1 allows
    have named := (allows_subject_iff flat inGraph).1 subject
    rw [(firstNamed_text_iff flat.distinct constant).2 ⟨inGraph, named⟩, taken]
    exact (each node inGraph).complete first found firstAllows

/-- Replacing a variable grounds the source of a subject. -/
theorem grounded_subjectSource (gives : matcher.accessor.Gives (Accessor.read Value.sameTerm))
    (flat : Flat graph) (declares : matcher.isVariable declared name = true)
    (fixed : matcher.isVariable declared constant = false) {pattern : Value}
    (described : pattern.isObject = true) (noPredicate : name ∉ Node.names pattern) :
    Source.Grounded name constant (matcher.subjectSource declared graph pattern)
      (matcher.subjectSource declared graph (Node.grounded name constant pattern)) := by
  have predicates := fun node (inGraph : node ∈ graph) =>
    grounded_predicatesSource gives flat inGraph declares fixed described noPredicate
  rw [subjectSource_eq gives, subjectSource_eq gives, Node.identifier_grounded]
  by_cases here : (Node.identifier pattern).text? = some name
  · have before : matcher.asVariable? declared (Node.identifier pattern) = some name := by
      rw [asVariable?, here, Option.filter_some, if_pos declares]
    have after : matcher.asVariable? declared (.text constant) = none := by
      rw [asVariable?_text, if_neg (by simp [fixed])]
    rw [Node.groundedIdentifier, if_pos here, before, after]
    exact grounded_subject flat predicates
  · rw [Node.groundedIdentifier, if_neg here]
    cases ranging : matcher.asVariable? declared (Node.identifier pattern) with
    | some other =>
      have different : other ≠ name := by
        rintro rfl
        exact here (Option.filter_eq_some_iff.1 ranging).1
      apply Source.Grounded.union
      intro node inGraph
      exact (predicates node inGraph).extend different _
    | none =>
      dsimp only
      cases found : firstNamed (Accessor.read Value.sameTerm) graph (Node.identifier pattern) with
      | none =>
        apply Source.Grounded.of_free
        intro binding member
        cases member
      | some node => exact predicates node (mem_of_firstNamed found)

/-- Replacing a declared variable grounds the source of a pattern. -/
theorem grounded_patternSource (gives : matcher.accessor.Gives (Accessor.read Value.sameTerm))
    (flat : Flat graph) (isDeclared : name ∈ declared)
    (fixed : matcher.isVariable declared constant = false) {pattern : List Value}
    (described : ∀ subject ∈ pattern, subject.isObject = true)
    (noPredicate : ∀ subject ∈ pattern, name ∉ Node.names subject) :
    Source.Grounded name constant (matcher.patternSource declared graph pattern)
      (matcher.patternSource declared graph (pattern.map (Node.grounded name constant))) := by
  have declares : matcher.isVariable declared name = true := by
    rw [isVariable, List.contains_iff_mem.2 isDeclared, Bool.or_true]
  have joined : Source.Grounded name constant
      (.joinAll (pattern.map (matcher.subjectSource declared graph)))
      (.joinAll ((pattern.map (Node.grounded name constant)).map
        (matcher.subjectSource declared graph))) := by
    rw [List.map_map]
    apply Source.Grounded.joinAll
    intro subject member
    exact grounded_subjectSource gives flat declares fixed (described subject member)
      (noPredicate subject member)
  exact joined.project isDeclared

/-- What is found for objects binds a variable that is one of them. -/
theorem binds_objectsSource (gives : matcher.accessor.Gives (Accessor.read Value.sameTerm))
    (subject : node.isObject = true) (declares : matcher.isVariable declared name = true)
    {objects : List Value} {object : Value} (member : object ∈ objects)
    (named : identifierOf object = some name) (predicate : String) :
    (matcher.objectsSource declared node predicate objects).Binds .sameTerm name := by
  apply Source.binds_joinAll
  refine ⟨object, member, ?_⟩
  rw [objectSource_eq gives declared subject, objectVariable?_of_named declares named]
  apply Source.binds_union
  intro value _ binding found
  rw [Source.mem_found_single_iff.1 found, Binding.get?_single, if_pos rfl]
  rfl

/-- What is found for the predicates of a subject binds a variable that is one of its objects. -/
theorem binds_predicatesSource (gives : matcher.accessor.Gives (Accessor.read Value.sameTerm))
    (subject : node.isObject = true) (declares : matcher.isVariable declared name = true)
    {pattern : Value} (described : pattern.isObject = true) {predicate : String}
    (inNames : predicate ∈ Node.names pattern) {object : Value}
    (member : object ∈ Node.valuesOf pattern predicate)
    (named : identifierOf object = some name) :
    (matcher.predicatesSource declared node pattern).Binds .sameTerm name := by
  have objects := binds_objectsSource gives subject declares member named
  apply Source.binds_joinAll
  refine ⟨predicate, inNames, ?_⟩
  rw [predicateSource_eq gives declared subject described]
  by_cases ranging : matcher.isVariable declared predicate = true
  · rw [if_pos ranging]
    apply Source.binds_union
    intro picked _
    exact Source.binds_extend (.inl (objects picked))
  · rw [if_neg ranging]
    by_cases present : (Accessor.read Value.sameTerm).hasProperty node predicate = true
    · rw [if_pos present]
      exact objects predicate
    · rw [if_neg present]
      intro binding found
      cases found

/-- What is found for a subject binds a variable that it mentions. -/
theorem binds_subjectSource (gives : matcher.accessor.Gives (Accessor.read Value.sameTerm))
    (nodes : ∀ node ∈ graph, node.isObject = true)
    (declares : matcher.isVariable declared name = true) {pattern : Value}
    (described : pattern.isObject = true) (mentions : Node.Mentions name pattern) :
    (matcher.subjectSource declared graph pattern).Binds .sameTerm name := by
  rw [subjectSource_eq gives]
  rcases mentions with here | ⟨predicate, inNames, object, member, named⟩
  · rw [here, asVariable?_text, if_pos declares]
    apply Source.binds_union
    intro node _
    apply Source.binds_extend
    right
    rw [Binding.get?_single, if_pos rfl]
    rfl
  · have predicates := fun node (inGraph : node ∈ graph) =>
      binds_predicatesSource gives (nodes node inGraph) declares described inNames member named
    cases matcher.asVariable? declared (Node.identifier pattern) with
    | some other =>
      apply Source.binds_union
      intro node inGraph
      exact Source.binds_extend (.inl (predicates node inGraph))
    | none =>
      dsimp only
      cases found : firstNamed (Accessor.read Value.sameTerm) graph (Node.identifier pattern) with
      | some node => exact predicates node (mem_of_firstNamed found)
      | none =>
        intro binding member
        cases member

/-- What is found for a pattern binds a declared variable that one of its subjects mentions. -/
theorem binds_patternSource (gives : matcher.accessor.Gives (Accessor.read Value.sameTerm))
    (nodes : ∀ node ∈ graph, node.isObject = true) (isDeclared : name ∈ declared)
    {pattern : List Value} (described : ∀ subject ∈ pattern, subject.isObject = true)
    (mentions : ∃ subject ∈ pattern, Node.Mentions name subject) :
    (matcher.patternSource declared graph pattern).Binds .sameTerm name := by
  have declares : matcher.isVariable declared name = true := by
    rw [isVariable, List.contains_iff_mem.2 isDeclared, Bool.or_true]
  obtain ⟨subject, member, mentioned⟩ := mentions
  have joined : (Source.joinAll (pattern.map (matcher.subjectSource declared graph))).Binds
      .sameTerm name :=
    Source.binds_joinAll ⟨subject, member,
      binds_subjectSource gives nodes declares (described subject member) mentioned⟩
  exact joined.project isDeclared

/-- Replacing a variable by an identifier is filtering on it. Let a declared variable be
mentioned in a pattern, as a subject or an object and not as a predicate, and let an identifier be
no variable. Matching the pattern in which the identifier replaces the variable finds, in a
flattened graph, the matches of the pattern before for which the identifier compares with the value
of the variable, each without the variable. Every match of the pattern before binds the variable,
and there are no faults. -/
theorem mem_bindings_grounded_iff (documents : Entries Value) (base : Option String)
    (blankStart : String) {graph pattern : List Value} {declared : List String}
    {name constant : String} (flat : Flat graph)
    (described : ∀ subject ∈ pattern, subject.isObject = true) (isDeclared : name ∈ declared)
    (mentions : ∃ subject ∈ pattern, Node.Mentions name subject)
    (noPredicate : ∀ subject ∈ pattern, name ∉ Node.names subject)
    (fixed : (ofAccessor (.jsonLd documents base) none blankStart).isVariable declared constant =
      false) :
    let matcher := ofAccessor (.jsonLd documents base) none blankStart
    ∃ before after : Source,
      (matcher.matchPattern (.list graph) (.list pattern) declared).result = .ok before ∧
      (matcher.matchPattern (.list graph) (.list (pattern.map (Node.grounded name constant)))
        declared).result = .ok after ∧
      (before.walk matcher.equality).Finishes ∧ (after.walk matcher.equality).Finishes ∧
      Event.faults (before.walk matcher.equality).elements = [] ∧
      Event.faults (after.walk matcher.equality).elements = [] ∧
      (∀ whole ∈ before.bindings matcher.equality, (whole.get? name).isSome = true) ∧
      ∀ binding, binding ∈ after.bindings matcher.equality ↔
        ∃ whole ∈ before.bindings matcher.equality, ∃ value, whole.get? name = some value ∧
          matcher.accessor.compareValues (.text constant) value = .ok true ∧
          binding = whole.without name := by
  intro matcher
  have gives : matcher.accessor.Gives (Accessor.read Value.sameTerm) :=
    Accessor.gives_reading (Accessor.flattenJsonLd documents base) Value.sameTerm
  have total : matcher.equality.Total := fun first second => ⟨_, rfl⟩
  have describedAfter : ∀ subject ∈ pattern.map (Node.grounded name constant),
      subject.isObject = true :=
    List.forall_mem_map.2 fun subject member => Node.isObject_grounded (described subject member)
  have knownBefore := known_patternSource matcher declared graph pattern
  have knownAfter := known_patternSource matcher declared graph
    (pattern.map (Node.grounded name constant))
  have grounded := grounded_patternSource gives flat isDeclared fixed described noPredicate
  have binds := binds_patternSource gives flat.object isDeclared described mentions
  refine ⟨_, _, result_matchPattern gives.guarded flat.object described,
    result_matchPattern gives.guarded flat.object describedAfter,
    Source.finishes_walk total _ knownBefore, Source.finishes_walk total _ knownAfter, ?_⟩
  unfold Source.bindings
  rw [Source.elements_walk total knownBefore, Source.elements_walk total knownAfter]
  refine ⟨clean_patternSource gives declared flat.object described,
    clean_patternSource gives declared flat.object describedAfter, binds, fun binding => ?_⟩
  have compares : ∀ whole ∈ (matcher.patternSource declared graph pattern).found .sameTerm,
      ∀ value, whole.get? name = some value →
        (matcher.accessor.compareValues (.text constant) value = .ok true ↔
          identifierOf value = some constant) := by
    intro whole member value held
    rw [gives.compareValues, Except.ok.injEq]
    exact Value.sameTerm_iff_of_identifierOf (Value.plain_text constant)
      (grounded.plain whole member value held) rfl
  constructor
  · intro member
    obtain ⟨whole, found, allows, same⟩ := grounded.sound binding member
    obtain ⟨value, held⟩ := Option.isSome_iff_exists.1 (binds whole found)
    exact ⟨whole, found, value, held, (compares whole found value held).2 (allows value held), same⟩
  · rintro ⟨whole, found, value, held, compared, rfl⟩
    apply grounded.complete whole found
    intro other isHeld
    rw [held, Option.some.injEq] at isHeld
    rw [← isHeld]
    exact (compares whole found value held).1 compared

/-- Two nodes that lead to each other match a subject that is a variable. The one that compares with
the first node is left, without the variable, when the subject is that node. -/
theorem mem_bindings_grounded_subject :
    let node (name other : String) : Value :=
      .object [("@id", .text name), ("p", .list [Value.reference other])]
    let matcher := ofAccessor (.jsonLd [] none) none "_:"
    let graph := [node "a" "b", node "b" "a"]
    let shown (source : Source) := (source.bindings matcher.equality).map fun binding =>
      ((binding.get? "?x").bind identifierOf, (binding.get? "?y").bind identifierOf)
    ∃ before after : Source,
      (matcher.matchPattern (.list graph) (.list [node "?x" "?y"]) ["?x", "?y"]).result =
        .ok before ∧
      (matcher.matchPattern (.list graph) (.list [node "a" "?y"]) ["?x", "?y"]).result =
        .ok after ∧
      (∀ binding, binding ∈ after.bindings matcher.equality ↔
        ∃ whole ∈ before.bindings matcher.equality, ∃ value, whole.get? "?x" = some value ∧
          matcher.accessor.compareValues (.text "a") value = .ok true ∧
          binding = whole.without "?x") ∧
      shown before = [(some "a", some "b"), (some "b", some "a")] ∧
      shown after = [(none, some "b")] := by
  intro node matcher graph shown
  have listed : ∀ first second name value, name ≠ "@id" →
      (node first second).member? name = some value →
      ∃ items, value = .list items ∧ ∀ item ∈ items, item.Plain := by
    intro first second name value different held
    have later : Entries.get? [("p", Value.list [Value.reference second])] name = some value := by
      have cons := Entries.get?_cons "@id" name (Value.text first)
        [("p", Value.list [Value.reference second])]
      rw [if_neg different.symm] at cons
      exact cons.symm.trans held
    rw [Entries.get?_cons] at later
    by_cases here : "p" = name
    · rw [if_pos here, Option.some.injEq] at later
      refine ⟨_, later.symm, fun item member => .inl ?_⟩
      rw [List.mem_singleton.1 member]
      rfl
    · rw [if_neg here] at later
      cases later
  have flat : Flat graph := by
    refine ⟨?_, ?_, ?_, ?_⟩
    · simp [graph, node, Value.isObject]
    · simp [graph, node, Value.member?, Entries.get?]
    · intro member inGraph
      rcases List.mem_pair.1 inGraph with rfl | rfl
      · exact listed "a" "b"
      · exact listed "b" "a"
    · simp [graph, node, Node.identifier, Value.member?, Entries.get?]
  have described : ∀ first second, ∀ subject ∈ [node first second], subject.isObject = true := by
    simp [node, Value.isObject]
  obtain ⟨before, after, builtBefore, builtAfter, _, _, _, _, _, members⟩ :=
    mem_bindings_grounded_iff [] none "_:" flat (described "?x" "?y")
      (show "?x" ∈ ["?x", "?y"] by decide)
      ⟨node "?x" "?y", List.mem_singleton_self _, .inl rfl⟩
      (by simp [node, Node.names, Entries.keys])
      (show (ofAccessor (.jsonLd [] none) none "_:").isVariable ["?x", "?y"] "a" = false by
        decide +kernel)
  have promised : matcher.accessor.Guarded := (Accessor.gives_jsonLd [] none).guarded
  have isBefore : before = matcher.patternSource ["?x", "?y"] graph [node "?x" "?y"] :=
    eq_patternSource promised flat.object (described _ _) builtBefore
  have isAfter : after = matcher.patternSource ["?x", "?y"] graph [node "a" "?y"] :=
    eq_patternSource promised flat.object (described _ _) builtAfter
  refine ⟨before, after, builtBefore, builtAfter, members, ?_, ?_⟩
  · rw [isBefore]
    clear * -
    subst shown graph matcher node
    decide +kernel
  · rw [isAfter]
    clear * -
    subst shown graph matcher node
    decide +kernel

end Matcher

end GraphPattern
