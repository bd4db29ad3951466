import GraphPattern.Proofs.Answering
import GraphPattern.Proofs.Occurrence

/-!
# Matches as assignments

What a match of a pattern is can be said without any source. An assignment
picks a node of the graph for every subject of the pattern, a name of that node
for every predicate of the subject, and a value under that name for every
object that is a variable; objects that are none must be there. It gives values
to the variables of the pattern, once for every occurrence, and it counts as a
match if the values of each variable are equal two by two.

Main statement: matching finds exactly the consistent assignments, each once,
in the order in which assignments are listed, provided that the accessor
answers all questions and that the test of equality is symmetric and transitive.
-/

namespace GraphPattern

/-- What an assignment picks for one predicate of a pattern. -/
structure PredicatePick where
  /-- A name of the picked node. -/
  name : String
  /-- For every object of the pattern, a value if the object is a variable. -/
  objects : List (Option Value)

/-- What an assignment picks for one subject of a pattern. -/
structure SubjectPick where
  /-- A node of the graph. -/
  node : Value
  /-- The picks for the predicates of the subject. -/
  predicates : List PredicatePick

/-- What is picked for all subjects of a pattern. -/
abbrev Assignment := List SubjectPick

namespace Matcher

section Picking

variable (matcher : Matcher) (declared : List String) (answers : Accessor.Answers)

/-- A value under a name for a variable; nothing for an object that must be there and is. -/
def IsObjectPick (node : Value) (name : String) (object : Value) : Option Value → Prop
  | some value =>
    (matcher.objectVariable? declared object).isSome = true ∧ value ∈ answers.values node name
  | none =>
    matcher.objectVariable? declared object = none ∧ answers.hasValue node name object = true

/-- A name of the node, any one for a variable, and picks for all objects of the predicate. -/
def IsPredicatePick (node pattern : Value) (predicate : String) (pick : PredicatePick) : Prop :=
  (if matcher.isVariable declared predicate then pick.name ∈ Node.names node
    else pick.name = predicate ∧ answers.hasProperty node predicate = true) ∧
  List.Forall₂ (matcher.IsObjectPick declared answers node pick.name)
    (answers.values pattern predicate) pick.objects

/-- A node of the graph, any one for a variable, and picks for all predicates of the subject. -/
def IsSubjectPick (graph : List Value) (pattern : Value) (pick : SubjectPick) : Prop :=
  (if (matcher.asVariable? declared (Node.identifier pattern)).isSome then pick.node ∈ graph
    else firstNamed answers graph (Node.identifier pattern) = some pick.node) ∧
  List.Forall₂ (matcher.IsPredicatePick declared answers pick.node pattern)
    (Node.names pattern) pick.predicates

/-- Picks for all subjects of a pattern. -/
def IsAssignment (graph pattern : List Value) (assignment : Assignment) : Prop :=
  List.Forall₂ (matcher.IsSubjectPick declared answers graph) pattern assignment

/-- The picks for an object, in the order of the values. -/
def objectPicks (node : Value) (name : String) (object : Value) : List (Option Value) :=
  if (matcher.objectVariable? declared object).isSome then (answers.values node name).map some
  else if answers.hasValue node name object then [none] else []

/-- The names that can be picked for a predicate, in the order of the node. -/
def pickedNames (node : Value) (predicate : String) : List String :=
  if matcher.isVariable declared predicate then Node.names node
  else if answers.hasProperty node predicate then [predicate] else []

/-- The picks for a predicate: by name, and for each name by the last object, the second to last,
and so on. -/
def predicatePicks (node pattern : Value) (predicate : String) : List PredicatePick :=
  (matcher.pickedNames declared answers node predicate).flatMap fun name =>
    ((answers.values pattern predicate).map
      (matcher.objectPicks declared answers node name)).sections.map (PredicatePick.mk name)

/-- The nodes that can be picked for a subject, in the order of the graph. -/
def pickedNodes (graph : List Value) (pattern : Value) : List Value :=
  if (matcher.asVariable? declared (Node.identifier pattern)).isSome then graph
  else (firstNamed answers graph (Node.identifier pattern)).toList

/-- The picks for a subject: by node, and for each node by the last predicate, the second to last,
and so on. -/
def subjectPicks (graph : List Value) (pattern : Value) : List SubjectPick :=
  (matcher.pickedNodes declared answers graph pattern).flatMap fun node =>
    ((Node.names pattern).map
      (matcher.predicatePicks declared answers node pattern)).sections.map (SubjectPick.mk node)

/-- The assignments of a pattern, ordered by the last subject, the second to last, and so on. -/
def assignments (graph pattern : List Value) : List Assignment :=
  (pattern.map (matcher.subjectPicks declared answers graph)).sections

/-- The value that a pick gives to an object that is a variable. -/
def objectOccurrences (object : Value) (pick : Option Value) : Entries Value :=
  match matcher.objectVariable? declared object, pick with
  | some name, some value => [(name, value)]
  | _, _ => []

/-- The values that a pick gives to the variables of a predicate: to the objects in order, and then
to the predicate itself. -/
def predicateOccurrences (pattern : Value) (predicate : String) (pick : PredicatePick) :
    Entries Value :=
  (List.zipWith (matcher.objectOccurrences declared) (answers.values pattern predicate)
      pick.objects).flatten ++
    if matcher.isVariable declared predicate then [(predicate, .text pick.name)] else []

/-- The values that a pick gives to the variables of a subject: to those of the predicates in
order, and then to the subject itself. -/
def subjectOccurrences (pattern : Value) (pick : SubjectPick) : Entries Value :=
  (List.zipWith (matcher.predicateOccurrences declared answers pattern) (Node.names pattern)
      pick.predicates).flatten ++
    match matcher.asVariable? declared (Node.identifier pattern) with
    | some name => [(name, Node.identifier pick.node)]
    | none => []

/-- The values that an assignment gives to the variables of a pattern, subject by subject. -/
def occurrences (pattern : List Value) (assignment : Assignment) : Entries Value :=
  (List.zipWith (matcher.subjectOccurrences declared answers) pattern assignment).flatten

end Picking

section Listing

variable {α β γ : Type}

/-- A section of lists of picks picks from each. -/
theorem mem_sections_map_iff (picks : α → List β) (list : List α) (chosen : List β) :
    chosen ∈ (list.map picks).sections ↔
      List.Forall₂ (fun element pick => pick ∈ picks element) list chosen := by
  rw [List.mem_sections, List.forall₂_map_right_iff]
  exact ⟨List.Forall₂.flip, List.Forall₂.flip⟩

/-- Changing what is picked from each list changes the sections place by place. -/
theorem sections_map_map (picks : α → List β) (change : α → β → γ) (list : List α) :
    (list.map fun element => (picks element).map (change element)).sections =
      (list.map picks).sections.map (List.zipWith change list) := by
  induction list with
  | nil => rfl
  | cons element rest ih =>
    rw [List.map_cons, List.map_cons, List.sections, List.sections, ih, List.flatMap_map,
      List.map_flatMap]
    simp only [List.map_map, Function.comp_def, List.zipWith_cons_cons]

end Listing

section Membership

variable (matcher : Matcher) (declared : List String) (answers : Accessor.Answers)

/-- The listed picks for an object are its picks. -/
theorem mem_objectPicks_iff (node : Value) (name : String) (object : Value)
    (pick : Option Value) :
    pick ∈ matcher.objectPicks declared answers node name object ↔
      matcher.IsObjectPick declared answers node name object pick := by
  unfold objectPicks
  cases named : matcher.objectVariable? declared object with
  | some ranging =>
    rw [Option.isSome_some, if_pos rfl, List.mem_map]
    cases pick with
    | some value => simp [IsObjectPick, named]
    | none => simp [IsObjectPick, named]
  | none =>
    rw [Option.isSome_none, if_neg Bool.false_ne_true]
    cases pick with
    | some value => split <;> simp [IsObjectPick, named]
    | none => split <;> simp_all [IsObjectPick]

/-- The listed picks for a predicate are its picks. -/
theorem mem_predicatePicks_iff (node pattern : Value) (predicate : String)
    (pick : PredicatePick) :
    pick ∈ matcher.predicatePicks declared answers node pattern predicate ↔
      matcher.IsPredicatePick declared answers node pattern predicate pick := by
  have names : ∀ name, name ∈ matcher.pickedNames declared answers node predicate ↔
      if matcher.isVariable declared predicate then name ∈ Node.names node
      else name = predicate ∧ answers.hasProperty node predicate = true := by
    intro name
    unfold pickedNames
    by_cases ranging : matcher.isVariable declared predicate = true
    · rw [if_pos ranging, if_pos ranging]
    · rw [if_neg ranging, if_neg ranging]
      by_cases present : answers.hasProperty node predicate = true <;> simp [present]
  obtain ⟨name, objects⟩ := pick
  simp only [predicatePicks, IsPredicatePick, List.mem_flatMap, List.mem_map,
    mem_sections_map_iff, mem_objectPicks_iff, PredicatePick.mk.injEq, names]
  constructor
  · rintro ⟨other, named, chosen, picked, rfl, rfl⟩
    exact ⟨named, picked⟩
  · rintro ⟨named, picked⟩
    exact ⟨name, named, objects, picked, rfl, rfl⟩

/-- The listed picks for a subject are its picks. -/
theorem mem_subjectPicks_iff (graph : List Value) (pattern : Value) (pick : SubjectPick) :
    pick ∈ matcher.subjectPicks declared answers graph pattern ↔
      matcher.IsSubjectPick declared answers graph pattern pick := by
  have nodes : ∀ node, node ∈ matcher.pickedNodes declared answers graph pattern ↔
      if (matcher.asVariable? declared (Node.identifier pattern)).isSome then node ∈ graph
      else firstNamed answers graph (Node.identifier pattern) = some node := by
    intro node
    unfold pickedNodes
    by_cases ranging :
        (matcher.asVariable? declared (Node.identifier pattern)).isSome = true
    · rw [if_pos ranging, if_pos ranging]
    · rw [if_neg ranging, if_neg ranging, Option.mem_toList]
  obtain ⟨node, predicates⟩ := pick
  simp only [subjectPicks, IsSubjectPick, List.mem_flatMap, List.mem_map,
    mem_sections_map_iff, mem_predicatePicks_iff, SubjectPick.mk.injEq, nodes]
  constructor
  · rintro ⟨other, found, chosen, picked, rfl, rfl⟩
    exact ⟨found, picked⟩
  · rintro ⟨found, picked⟩
    exact ⟨node, found, predicates, picked, rfl, rfl⟩

/-- The listed assignments of a pattern are its assignments. -/
theorem mem_assignments_iff (graph pattern : List Value) (assignment : Assignment) :
    assignment ∈ matcher.assignments declared answers graph pattern ↔
      matcher.IsAssignment declared answers graph pattern assignment := by
  unfold assignments IsAssignment
  rw [mem_sections_map_iff]
  simp only [mem_subjectPicks_iff]

end Membership

section Resolution

variable {matcher : Matcher} {answers : Accessor.Answers}

/-- The source of an object lists the values of its picks. -/
theorem resolves_objectSource (gives : matcher.accessor.Gives answers) (declared : List String)
    {node : Value} (subject : node.isObject = true) (name : String) (object : Value) :
    Source.Resolves matcher.equality (matcher.objectSource declared node name object)
      ((matcher.objectPicks declared answers node name object).map
        (matcher.objectOccurrences declared object)) := by
  rw [objectSource_eq gives declared subject]
  unfold objectPicks objectOccurrences
  cases matcher.objectVariable? declared object with
  | some ranging =>
    rw [Option.isSome_some, if_pos rfl, List.map_map]
    have each : ∀ value ∈ answers.values node name,
        Source.Resolves matcher.equality (.single (Binding.single ranging value))
          [[(ranging, value)]] :=
      fun value _ => Source.resolves_single ranging value
    have union := Source.resolves_union (answers.values node name) each
    rw [← List.map_eq_flatMap] at union
    exact union
  | none =>
    rw [Option.isSome_none, if_neg Bool.false_ne_true]
    dsimp only
    by_cases present : answers.hasValue node name object = true
    · rw [if_pos present, if_pos present]
      exact Source.resolves_compatible
    · rw [if_neg present, if_neg present]
      exact Source.resolves_incompatible

/-- The source of all objects for a predicate lists the values of the picks for all of them. -/
theorem resolves_objectsSource (equivalence : matcher.equality.PartialEquivalence)
    (gives : matcher.accessor.Gives answers) (declared : List String) {node : Value}
    (subject : node.isObject = true) (name : String) (objects : List Value) :
    Source.Resolves matcher.equality (matcher.objectsSource declared node name objects)
      ((objects.map (matcher.objectPicks declared answers node name)).sections.map fun chosen =>
        (List.zipWith (matcher.objectOccurrences declared) objects chosen).flatten) := by
  have joined := Source.resolves_joinAll equivalence objects fun object _ =>
    resolves_objectSource gives declared subject name object
  rw [sections_map_map, List.map_map] at joined
  exact joined

/-- The source of a predicate lists the values of its picks. -/
theorem resolves_predicateSource (equivalence : matcher.equality.PartialEquivalence)
    (gives : matcher.accessor.Gives answers) (declared : List String) {node pattern : Value}
    (subject : node.isObject = true) (described : pattern.isObject = true) (predicate : String) :
    Source.Resolves matcher.equality (matcher.predicateSource declared node pattern predicate)
      ((matcher.predicatePicks declared answers node pattern predicate).map
        (matcher.predicateOccurrences declared answers pattern predicate)) := by
  have joined : ∀ name, Source.Resolves matcher.equality _ _ := fun name =>
    resolves_objectsSource equivalence gives declared subject name
      (answers.values pattern predicate)
  rw [predicateSource_eq gives declared subject described]
  unfold predicatePicks pickedNames predicateOccurrences
  by_cases ranging : matcher.isVariable declared predicate = true
  · simp only [if_pos ranging]
    rw [List.map_flatMap]
    have union := Source.resolves_union (Node.names node) fun name _ =>
      Source.resolves_extend equivalence (joined name) predicate (.text name)
    simp only [List.map_map, Function.comp_def] at union ⊢
    exact union
  · simp only [if_neg ranging, List.append_nil]
    by_cases present : answers.hasProperty node predicate = true
    · rw [if_pos present, if_pos present, List.flatMap_singleton, List.map_map]
      exact joined predicate
    · rw [if_neg present, if_neg present]
      exact Source.resolves_incompatible

/-- The source of all predicates of a subject lists the values of the picks for all of them. -/
theorem resolves_predicatesSource (equivalence : matcher.equality.PartialEquivalence)
    (gives : matcher.accessor.Gives answers) (declared : List String) {node pattern : Value}
    (subject : node.isObject = true) (described : pattern.isObject = true) :
    Source.Resolves matcher.equality (matcher.predicatesSource declared node pattern)
      (((Node.names pattern).map
        (matcher.predicatePicks declared answers node pattern)).sections.map fun chosen =>
          (List.zipWith (matcher.predicateOccurrences declared answers pattern)
            (Node.names pattern) chosen).flatten) := by
  have joined := Source.resolves_joinAll equivalence (Node.names pattern)
    fun predicate _ =>
      resolves_predicateSource equivalence gives declared subject described predicate
  rw [sections_map_map, List.map_map] at joined
  exact joined

/-- The source of a subject lists the values of its picks. -/
theorem resolves_subjectSource (equivalence : matcher.equality.PartialEquivalence)
    (gives : matcher.accessor.Gives answers) (declared : List String) {graph : List Value}
    (nodes : ∀ node ∈ graph, node.isObject = true) {pattern : Value}
    (described : pattern.isObject = true) :
    Source.Resolves matcher.equality (matcher.subjectSource declared graph pattern)
      ((matcher.subjectPicks declared answers graph pattern).map
        (matcher.subjectOccurrences declared answers pattern)) := by
  have joined : ∀ node ∈ graph, Source.Resolves matcher.equality _ _ := fun node member =>
    resolves_predicatesSource equivalence gives declared (nodes node member)
      described
  rw [subjectSource_eq gives]
  unfold subjectPicks pickedNodes subjectOccurrences
  cases matcher.asVariable? declared (Node.identifier pattern) with
  | some name =>
    rw [Option.isSome_some, if_pos rfl, List.map_flatMap]
    have union := Source.resolves_union graph fun node member =>
      Source.resolves_extend equivalence (joined node member) name (Node.identifier node)
    simp only [List.map_map, Function.comp_def] at union ⊢
    exact union
  | none =>
    rw [Option.isSome_none, if_neg Bool.false_ne_true]
    dsimp only
    cases found : firstNamed answers graph (Node.identifier pattern) with
    | none => exact Source.resolves_incompatible
    | some node =>
      rw [Option.toList_some, List.flatMap_singleton, List.map_map]
      simp only [Function.comp_def, List.append_nil]
      exact joined node (mem_of_firstNamed found)

/-- Before it is restricted, the source of a pattern lists the values of its assignments. -/
theorem resolves_subjects (equivalence : matcher.equality.PartialEquivalence)
    (gives : matcher.accessor.Gives answers) (declared : List String) {graph pattern : List Value}
    (nodes : ∀ node ∈ graph, node.isObject = true)
    (described : ∀ subject ∈ pattern, subject.isObject = true) :
    Source.Resolves matcher.equality
      (.joinAll (pattern.map (matcher.subjectSource declared graph)))
      ((matcher.assignments declared answers graph pattern).map
        (matcher.occurrences declared answers pattern)) := by
  have joined := Source.resolves_joinAll equivalence pattern fun subject member =>
    resolves_subjectSource equivalence gives declared nodes
      (described subject member)
  rw [sections_map_map, List.map_map] at joined
  exact joined

/-- Matching finds exactly the consistent assignments. An accessor that answers all questions
and a symmetric and transitive test of equality are all that is needed. Building ends with a
source, going through it ends without an error, and its events are bindings only: one for every
assignment whose values are consistent, in the order of the assignments. It gives every declared
variable the first of its values, and its variables stand in the order of their first
occurrences. -/
theorem elements_matchPattern {answers : Accessor.Answers} (matcher : Matcher)
    (gives : matcher.accessor.Gives answers)
    (equivalence : matcher.equality.PartialEquivalence) (declared : List String)
    (graph pattern : List Value) (nodes : ∀ node ∈ graph, node.isObject = true)
    (described : ∀ subject ∈ pattern, subject.isObject = true) :
    (∃ source,
      (matcher.matchPattern (.list graph) (.list pattern) declared).result = .ok source ∧
      (source.walk matcher.equality).Finishes ∧
      (source.walk matcher.equality).elements =
        ((matcher.assignments declared answers graph pattern).filter fun assignment =>
          Consistent matcher.equality
            (matcher.occurrences declared answers pattern assignment)).map fun assignment =>
          .binding ((Binding.ofOccurrences
            (matcher.occurrences declared answers pattern assignment)).restricted declared)) ∧
    (∀ assignment, assignment ∈ matcher.assignments declared answers graph pattern ↔
      matcher.IsAssignment declared answers graph pattern assignment) ∧
    (∀ occurrences name, ((Binding.ofOccurrences occurrences).restricted declared).get? name =
      if name ∈ declared then occurrences.get? name else none) ∧
    ∀ occurrences, ((Binding.ofOccurrences occurrences).restricted declared).keys =
      (Entries.keys occurrences).eraseDups.filter declared.contains := by
  have known := known_patternSource matcher declared graph pattern
  refine ⟨⟨matcher.patternSource declared graph pattern,
    result_matchPattern gives.guarded nodes described,
    Source.finishes_walk equivalence.total _ known, ?_⟩,
    mem_assignments_iff matcher declared answers graph pattern, fun occurrences name => ?_,
    fun occurrences => ?_⟩
  · have resolves := resolves_subjects equivalence gives declared nodes described
    rw [Source.elements_walk equivalence.total known, patternSource, Source.listing, resolves,
      resolved, List.filter_map, List.map_map, List.map_map, List.map_map]
    rfl
  · rw [Binding.get?_restricted, Binding.get?_ofOccurrences]
    simp only [List.contains_iff_mem]
  · rw [Binding.keys_restricted, Binding.keys_ofOccurrences]

/-- A variable in two places picks the node that names itself and not the one that names
another. -/
theorem elements_matchPattern_self :
    let node (name : String) : Value := .object [("@id", .text name), ("p", .list [.text "a"])]
    let pattern : Value := .object [("@id", .text "?x"), ("p", .list [.text "?x"])]
    let matcher : Matcher := ⟨.static, .byImage identifierOf, "_:"⟩
    ∃ source,
      (matcher.matchPattern (.list [node "a", node "b"]) (.list [pattern]) ["?x"]).result =
        .ok source ∧
      (Event.bindings (source.walk matcher.equality).elements).map
        (fun binding => (binding.keys, (binding.get? "?x").bind Value.text?)) =
          [(["?x"], some "a")] := by
  intro node pattern matcher
  obtain ⟨⟨source, built, _, seen⟩, _⟩ := elements_matchPattern matcher
    (Accessor.gives_reading Accessor.flattenStatic Value.sameTerm)
    (EqualityTest.partialEquivalence_byImage identifierOf) ["?x"]
    [node "a", node "b"] [pattern] (by simp [node, Value.isObject])
    (by simp [pattern, Value.isObject])
  refine ⟨source, built, ?_⟩
  rw [seen]
  clear * -
  subst matcher pattern node
  decide +kernel

end Resolution

end Matcher

end GraphPattern
