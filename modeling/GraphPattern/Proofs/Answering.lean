import GraphPattern.JsonLd.Flatten
import GraphPattern.Proofs.Compilation
import GraphPattern.Proofs.Sameness
import Mathlib.Data.List.Nodup

/-!
# Accessors that answer

An accessor may fail on any question. One that never does gives plain answers,
and everything that depends on it can be said of the answers. The accessor that
reads nodes as they stand is one of these, as long as it is asked about objects.
-/

namespace GraphPattern

/-- The values that an object has under a name, in order. -/
def Node.valuesOf (node : Value) (name : String) : List Value :=
  ((node.member? name).map Value.toList).getD []

/-- What a name stands for, with a change made to each of its values. -/
def Value.mapItems (change : Value → Value) : Value → Value
  | .list items => .list (items.map change)
  | value => change value

/-- Changing what a name stands for changes each value, unless a value becomes a list. -/
theorem Value.toList_mapItems {change : Value → Value}
    (scalar : ∀ value : Value, value.isList = false → (change value).isList = false)
    (value : Value) : (value.mapItems change).toList = value.toList.map change := by
  have alone : ∀ value : Value, value.isList = false → value.toList = [value] := by
    intro value notList
    cases value with
    | list items => cases notList
    | _ => rfl
  cases value with
  | list items => rfl
  | _ => exact alone _ (scalar _ rfl)

/-- Changes that agree on all values of a name change what it stands for alike. -/
theorem Value.mapItems_congr {change other : Value → Value} {value : Value}
    (agree : ∀ item ∈ value.toList, change item = other item) :
    value.mapItems change = value.mapItems other := by
  cases value with
  | list items => exact congrArg Value.list (List.map_congr_left agree)
  | _ => exact agree _ List.mem_cons_self

namespace Accessor

/-- Answers to all questions about objects. -/
structure Answers where
  /-- All values of a predicate, in order. -/
  values : (node : Value) → (predicate : String) → List Value
  /-- Whether a node has a value among those of a predicate. -/
  hasValue : (node : Value) → (predicate : String) → (value : Value) → Bool
  /-- Whether a node has at least one value of a predicate. -/
  hasProperty : (node : Value) → (predicate : String) → Bool
  /-- Whether two values are the same. -/
  same : Value → Value → Bool

/-- An accessor that fails on no question about objects and answers as given. -/
structure Gives (accessor : Accessor) (answers : Answers) : Prop where
  /-- The values of a predicate. -/
  getValues : ∀ (node : Value) (predicate : String), node.isObject = true →
    accessor.getValues node (.text predicate) = .ok (answers.values node predicate)
  /-- Whether there is a value. -/
  hasValue : ∀ (node : Value) (predicate : String) (value : Value), node.isObject = true →
    accessor.hasValue node (.text predicate) value = .ok (answers.hasValue node predicate value)
  /-- Whether there is a predicate. -/
  hasProperty : ∀ (node : Value) (predicate : String), node.isObject = true →
    accessor.hasProperty node (.text predicate) = .ok (answers.hasProperty node predicate)
  /-- Whether two values are the same. -/
  compareValues : ∀ first second,
    accessor.compareValues first second = .ok (answers.same first second)

/-- An accessor that answers all questions never fails otherwise than as accessors do. -/
theorem Gives.guarded {accessor : Accessor} {answers : Answers} (gives : accessor.Gives answers) :
    accessor.Guarded where
  getValues node predicate object := by
    rw [gives.getValues node predicate object]
    exact OnlyAccess.ok _
  hasValue node predicate value object := by
    rw [gives.hasValue node predicate value object]
    exact OnlyAccess.ok _
  hasProperty node predicate object := by
    rw [gives.hasProperty node predicate object]
    exact OnlyAccess.ok _
  compareValues first second := by
    rw [gives.compareValues first second]
    exact OnlyAccess.ok _

/-- What is read of objects as they stand, values being the same by a given test. -/
def read (same : Value → Value → Bool) : Answers where
  values := Node.valuesOf
  hasValue node predicate value :=
    (node.member? predicate).any (Node.isAmong value) ||
      (Node.valuesOf node predicate).any (same value)
  hasProperty node predicate := (node.member? predicate).any Node.offers
  same := same

/-- Trying a test that never fails is asking whether it holds of some item. -/
theorem anyOf_ok (test : Value → Bool) (items : List Value) :
    anyOf (fun item => .ok (test item)) items = .ok (items.any test) := by
  induction items with
  | nil => rfl
  | cons item rest ih =>
    rw [anyOf, ih, List.any_cons]
    cases test item <;> rfl

/-- Looking first among what is stored and then trying a test that never fails. -/
theorem found_or_anyOf_ok (among : Bool) (test : Value → Bool) (items : List Value) :
    (if among then .ok true else anyOf (fun item => .ok (test item)) items) =
      Except.ok (among || items.any test) := by
  rw [anyOf_ok]
  cases among <;> rfl

/-- How the reading accessor looks for a value of an object: in the document's sense first, and then
by the comparison. -/
theorem hasValue_reading (flatten : Value → Option Value → Except Error (List Value))
    (compare : EqualityTest) (members : Entries Value) (predicate : String) (value : Value) :
    (reading flatten compare).hasValue (.object members) (.text predicate) value =
      if (Entries.get? members predicate).any (Node.isAmong value) then .ok true
      else anyOf (compare value) (Node.valuesOf (.object members) predicate) :=
  rfl

/-- The accessor that reads nodes as they stand answers all questions about objects. -/
theorem gives_reading (flatten : Value → Option Value → Except Error (List Value))
    (same : Value → Value → Bool) :
    (reading flatten fun first second => .ok (same first second)).Gives (read same) where
  getValues node predicate object := by
    cases node with
    | object members => rfl
    | _ => cases object
  hasValue node predicate value object := by
    cases node with
    | object members =>
      rw [hasValue_reading, found_or_anyOf_ok]
      rfl
    | _ => cases object
  hasProperty node predicate object := by
    cases node with
    | object members => rfl
    | _ => cases object
  compareValues first second := rfl

/-- The accessor for JSON-LD documents answers all questions about objects. -/
theorem gives_jsonLd (documents : Entries Value) (base : Option String) :
    (jsonLd documents base).Gives (read Value.sameTerm) :=
  gives_reading (flattenJsonLd documents base) Value.sameTerm

/-- Trying a test that fails only as accessors do fails only so. -/
theorem onlyAccess_anyOf {test : Value → Except Error Bool} (only : ∀ item, OnlyAccess (test item))
    (items : List Value) : OnlyAccess (anyOf test items) := by
  induction items with
  | nil => exact OnlyAccess.ok false
  | cons item rest ih =>
    refine (only item).bind fun truth _ => ?_
    cases truth with
    | true => exact OnlyAccess.ok true
    | false => exact ih

/-- The accessor that reads nodes as they stand fails about objects only where its comparison
does. -/
theorem guarded_reading (flatten : Value → Option Value → Except Error (List Value))
    {compare : EqualityTest} (only : ∀ first second, OnlyAccess (compare first second)) :
    (reading flatten compare).Guarded where
  getValues node predicate object := by
    cases node with
    | object members => exact OnlyAccess.ok _
    | _ => cases object
  hasValue node predicate value object := by
    cases node with
    | object members =>
      rw [hasValue_reading]
      by_cases among : (Entries.get? members predicate).any (Node.isAmong value) = true
      · rw [if_pos among]
        exact OnlyAccess.ok true
      · rw [if_neg among]
        exact onlyAccess_anyOf (only value) _
    | _ => cases object
  hasProperty node predicate object := by
    cases node with
    | object members => exact OnlyAccess.ok _
    | _ => cases object
  compareValues := only

/-- An accessor that is made to fail does so only as accessors do. -/
theorem guarded_failing (identifier : String) (questions : List Question) :
    (failing identifier questions).Guarded := by
  have compare : ∀ first second, OnlyAccess
      ((failing identifier questions).compareValues first second) :=
    fun first second => OnlyAccess.refused (OnlyAccess.ok _) _ _
  have sound := guarded_reading flattenStatic compare
  exact ⟨fun node predicate object => (sound.getValues node predicate object).refused _ _,
    fun node predicate value object => (sound.hasValue node predicate value object).refused _ _,
    fun node predicate object => (sound.hasProperty node predicate object).refused _ _, compare⟩

end Accessor

namespace Source

variable {equal : EqualityTest} {α : Type}

/-- A source without a fault among its events. -/
def Clean (equal : EqualityTest) (source : Source) : Prop :=
  Event.faults (source.listing equal) = []

/-- A walk through a clean source shows no fault, even if an error ends it. -/
theorem Clean.faults_elements {source : Source} (clean : source.Clean equal) :
    Event.faults (source.walk equal).elements = [] := by
  have shown := (follows_listing equal source).1.sublist.filterMap Event.fault?
  rw [← Event.faults, ← Event.faults, clean] at shown
  exact List.sublist_nil.1 shown

/-- A union of clean sources is clean. -/
theorem clean_union_map {list : List α} {build : α → Source}
    (each : ∀ element ∈ list, (build element).Clean equal) :
    (union (list.map build)).Clean equal := by
  rw [Clean, listing_union, Event.faults_flatMap_eq_nil_iff]
  exact List.forall_mem_map.2 each

/-- An extension of a clean source is clean. -/
theorem Clean.extend {source : Source} (clean : source.Clean equal) (extension : Binding) :
    (source.extend extension).Clean equal := by
  rw [Clean, listing, Event.faults_extensions]
  exact clean

/-- A join of clean sources is clean. -/
theorem clean_joinAll_map {list : List α} {build : α → Source}
    (each : ∀ element ∈ list, (build element).Clean equal) :
    (joinAll (list.map build)).Clean equal := by
  induction list with
  | nil => rfl
  | cons element rest ih =>
    rw [List.forall_mem_cons] at each
    exact Event.faults_joined_eq_nil_iff.2 ⟨ih each.2, .inr each.1⟩

/-- A projection of a clean source is clean. -/
theorem Clean.project {source : Source} (clean : source.Clean equal) (kept : List String) :
    (source.project kept).Clean equal := by
  rw [Clean, listing, Event.faults_map_restricted]
  exact clean

end Source

namespace Matcher

/-- The first node of a graph that goes by an identifier; null names none. -/
def firstNamed (answers : Accessor.Answers) (graph : List Value) : Value → Option Value
  | .null => none
  | identifier => graph.find? fun node =>
      answers.same (.object [("@id", Node.identifier node)]) (.object [("@id", identifier)])

variable {matcher : Matcher} {answers : Accessor.Answers}

/-- An accessor that answers all questions finds the first node that an identifier names. -/
theorem sought_eq (gives : matcher.accessor.Gives answers) (graph : List Value)
    (identifier : Value) :
    matcher.sought graph identifier = .ok (firstNamed answers graph identifier) := by
  have among : matcher.located identifier graph = .ok (graph.find? fun node =>
      answers.same (.object [("@id", Node.identifier node)]) (.object [("@id", identifier)])) := by
    induction graph with
    | nil => rfl
    | cons node rest ih =>
      rw [located, gives.compareValues, List.find?_cons]
      cases answers.same (.object [("@id", Node.identifier node)])
          (.object [("@id", identifier)]) with
      | true => rfl
      | false => exact ih
  cases identifier with
  | null => rfl
  | _ => exact among

/-- The first node that goes by an identifier is one of the graph. -/
theorem mem_of_firstNamed {graph : List Value} {identifier node : Value}
    (found : firstNamed answers graph identifier = some node) : node ∈ graph := by
  cases identifier with
  | null => cases found
  | _ => exact List.mem_of_find?_eq_some found

/-- If no two nodes go by the same identifier, then a text finds the node that goes by it. -/
theorem firstNamed_text_iff {graph : List Value} (distinct : (graph.map Node.identifier).Nodup)
    {node : Value} (identifier : String) :
    firstNamed (Accessor.read Value.sameTerm) graph (.text identifier) = some node ↔
      node ∈ graph ∧ Node.identifier node = .text identifier := by
  show graph.find? (fun other => (Value.object [("@id", Node.identifier other)]).sameTerm
    (Value.reference identifier)) = some node ↔ _
  constructor
  · intro found
    have holds := List.find?_some found
    exact ⟨List.mem_of_find?_eq_some found, (Value.sameTerm_reference_iff _ _).1 holds⟩
  · rintro ⟨inGraph, named⟩
    cases found : graph.find? (fun other =>
      (Value.object [("@id", Node.identifier other)]).sameTerm (Value.reference identifier)) with
    | none =>
      rw [List.find?_eq_none] at found
      exact absurd ((Value.sameTerm_reference_iff _ _).2 named) (found node inGraph)
    | some other =>
      have otherInGraph := List.mem_of_find?_eq_some found
      have holds := List.find?_some found
      have otherNamed := (Value.sameTerm_reference_iff _ _).1 holds
      rw [List.inj_on_of_nodup_map distinct otherInGraph inGraph (otherNamed.trans named.symm)]

/-- A node that goes by a text is found only for that text. -/
theorem eq_of_firstNamed {graph : List Value} {identifier node : Value} {name : String}
    (found : firstNamed (Accessor.read Value.sameTerm) graph identifier = some node)
    (goesBy : Node.identifier node = .text name) : identifier = .text name := by
  cases identifier with
  | null => cases found
  | _ =>
    have holds := List.find?_some found
    rw [goesBy] at holds
    exact (Value.reference_sameTerm_iff name _).1 holds

/-- With answers to all questions, the source of an object is made of them. -/
theorem objectSource_eq (gives : matcher.accessor.Gives answers) (declared : List String)
    {node : Value} (subject : node.isObject = true) (name : String) (object : Value) :
    matcher.objectSource declared node name object =
      match matcher.objectVariable? declared object with
      | some ranging =>
        .union ((answers.values node name).map fun value => .single (Binding.single ranging value))
      | none => if answers.hasValue node name object then .compatible else .incompatible := by
  unfold objectSource
  rw [gives.getValues node name subject, gives.hasValue node name object subject]
  cases matcher.objectVariable? declared object <;> rfl

/-- With answers to all questions, the source of a predicate is made of those of its objects. -/
theorem predicateSource_eq (gives : matcher.accessor.Gives answers) (declared : List String)
    {node pattern : Value} (subject : node.isObject = true) (described : pattern.isObject = true)
    (predicate : String) :
    matcher.predicateSource declared node pattern predicate =
      if matcher.isVariable declared predicate then
        .union ((Node.names node).map fun name =>
          .extend (matcher.objectsSource declared node name (answers.values pattern predicate))
            (Binding.single predicate (.text name)))
      else if answers.hasProperty node predicate then
        matcher.objectsSource declared node predicate (answers.values pattern predicate)
      else .incompatible := by
  unfold predicateSource
  rw [gives.getValues pattern predicate described, gives.hasProperty node predicate subject]
  by_cases ranging : matcher.isVariable declared predicate = true
  · simp only [if_pos ranging]
    rfl
  · simp only [if_neg ranging]
    cases answers.hasProperty node predicate <;> rfl

/-- With answers to all questions, the source of a subject is made of those of its predicates. -/
theorem subjectSource_eq (gives : matcher.accessor.Gives answers) (declared : List String)
    (graph : List Value) (pattern : Value) :
    matcher.subjectSource declared graph pattern =
      match matcher.asVariable? declared (Node.identifier pattern) with
      | some name =>
        .union (graph.map fun node =>
          .extend (matcher.predicatesSource declared node pattern)
            (Binding.single name (Node.identifier node)))
      | none =>
        match firstNamed answers graph (Node.identifier pattern) with
        | some node => matcher.predicatesSource declared node pattern
        | none => .incompatible := by
  unfold subjectSource
  rw [sought_eq gives]
  cases matcher.asVariable? declared (Node.identifier pattern) with
  | some name => rfl
  | none => cases firstNamed answers graph (Node.identifier pattern) <;> rfl

/-- With answers to all questions, the sources of objects are clean. -/
theorem clean_objectsSource (gives : matcher.accessor.Gives answers) (declared : List String)
    {node : Value} (subject : node.isObject = true) (name : String) (objects : List Value) :
    (matcher.objectsSource declared node name objects).Clean matcher.equality := by
  apply Source.clean_joinAll_map
  intro object _
  rw [objectSource_eq gives declared subject]
  cases matcher.objectVariable? declared object with
  | some ranging => exact Source.clean_union_map fun value _ => rfl
  | none =>
    dsimp only
    by_cases present : answers.hasValue node name object = true
    · rw [if_pos present]
      rfl
    · rw [if_neg present]
      rfl

/-- With answers to all questions, the sources of predicates are clean. -/
theorem clean_predicatesSource (gives : matcher.accessor.Gives answers) (declared : List String)
    {node pattern : Value} (subject : node.isObject = true) (described : pattern.isObject = true) :
    (matcher.predicatesSource declared node pattern).Clean matcher.equality := by
  apply Source.clean_joinAll_map
  intro predicate _
  have objects := fun name =>
    clean_objectsSource gives declared subject name (answers.values pattern predicate)
  rw [predicateSource_eq gives declared subject described]
  by_cases ranging : matcher.isVariable declared predicate = true
  · rw [if_pos ranging]
    exact Source.clean_union_map fun name _ => (objects name).extend _
  · rw [if_neg ranging]
    by_cases present : answers.hasProperty node predicate = true
    · rw [if_pos present]
      exact objects predicate
    · rw [if_neg present]
      rfl

/-- With answers to all questions, the source of a pattern has no faults. -/
theorem clean_patternSource (gives : matcher.accessor.Gives answers) (declared : List String)
    {graph pattern : List Value} (nodes : ∀ node ∈ graph, node.isObject = true)
    (described : ∀ subject ∈ pattern, subject.isObject = true) :
    (matcher.patternSource declared graph pattern).Clean matcher.equality := by
  apply Source.Clean.project
  apply Source.clean_joinAll_map
  intro subject member
  have predicates := fun node inGraph =>
    clean_predicatesSource gives declared (nodes node inGraph) (described subject member)
  rw [subjectSource_eq gives]
  cases matcher.asVariable? declared (Node.identifier subject) with
  | some name => exact Source.clean_union_map fun node inGraph => (predicates node inGraph).extend _
  | none =>
    dsimp only
    cases found : firstNamed answers graph (Node.identifier subject) with
    | none => rfl
    | some node => exact predicates node (mem_of_firstNamed found)

end Matcher

end GraphPattern
