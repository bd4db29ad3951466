import GraphPattern.Proofs.Finding
import GraphPattern.Proofs.Weakening

/-!
# The variables of a match

Every binding that a match finds binds the same variables in the same order, and
the pattern alone decides which: they are the declared names among its
identifiers. A union has alternatives that all bind the same names, a join binds
those of either side, and an alternative that would leave out a name finds
nothing. This goes for whatever is built, so that neither the graph nor the
accessor must be looked at, and a failure, which finds nothing, is no exception.

Main statement: the variables of a binding are the identifiers in the pattern, each
once and in the order of their first occurrence, as far as they are declared.
-/

namespace GraphPattern

namespace Source

variable {equal : EqualityTest} {names others : List String}

/-- All that a source finds binds the same names, in the order of their first occurrence in a
list. -/
def Spans (equal : EqualityTest) (names : List String) (source : Source) : Prop :=
  ∀ binding ∈ source.found equal, binding.keys = names.eraseDups

/-- What finds nothing leaves out no name. -/
theorem spans_of_found_eq_nil {source : Source} (nothing : source.found equal = []) :
    source.Spans equal names := by
  intro binding shown
  rw [nothing] at shown
  cases shown

/-- What is there without a variable binds none. -/
theorem spans_compatible (equal : EqualityTest) : compatible.Spans equal [] := by
  intro binding shown
  rw [List.mem_singleton.1 shown]
  rfl

/-- A single binding of one variable binds that one. -/
theorem spans_single (name : String) (value : Value) :
    (single (Binding.single name value)).Spans equal [name] := by
  intro binding shown
  rw [mem_found_single_iff.1 shown]
  rfl

/-- A join binds what the left source binds and then what the right one does. -/
theorem Spans.join {left right : Source} (first : left.Spans equal names)
    (second : right.Spans equal others) : (join left right).Spans equal (names ++ others) := by
  intro binding shown
  obtain ⟨earlier, inLeft, later, inRight, _, rfl⟩ := mem_found_join_iff.1 shown
  exact Binding.keys_merged_eq_eraseDups (first earlier inLeft) (second later inRight)

/-- An extension by one variable binds it last. -/
theorem Spans.extend {source : Source} (spans : source.Spans equal names) (name : String)
    (value : Value) :
    (extend source (Binding.single name value)).Spans equal (names ++ [name]) := by
  intro binding shown
  obtain ⟨earlier, found, _, rfl⟩ := mem_found_extend_iff.1 shown
  exact Binding.keys_merged_eq_eraseDups (spans earlier found) rfl

/-- A projection binds the names that are kept. -/
theorem Spans.project {source : Source} (spans : source.Spans equal names) (kept : List String) :
    (project source kept).Spans equal (names.filter kept.contains) := by
  intro binding shown
  obtain ⟨full, found, rfl⟩ := mem_found_project_iff.1 shown
  rw [Binding.keys_restricted, spans full found, eraseDups_filter]

/-- A union binds what all of its sources bind. -/
theorem spans_union {α : Type} {list : List α} {sources : List Source}
    (paired : List.Forall₂ (fun _ source => source.Spans equal names) list sources) :
    (union sources).Spans equal names := by
  induction paired with
  | nil => exact spans_of_found_eq_nil rfl
  | cons first _ ih =>
    intro binding shown
    rw [found_union, List.flatMap_cons, List.mem_append, ← found_union] at shown
    obtain here | later := shown
    · exact first binding here
    · exact ih binding later

/-- A join of many sources binds what each of them binds, one after the other. -/
theorem spans_joinAll {α : Type} {namesOf : α → List String} {list : List α}
    {sources : List Source}
    (paired : List.Forall₂ (fun element source => source.Spans equal (namesOf element)) list
      sources) : (joinAll sources).Spans equal (list.flatMap namesOf) := by
  induction paired with
  | nil => exact spans_compatible equal
  | cons first _ ih =>
    rw [List.flatMap_cons]
    exact first.join ih

end Source

namespace Traced

variable {ε α β : Type}

/-- Computations that succeed one after the other all succeed. -/
theorem forall₂_of_result_mapM {step : α → Traced ε β} {list : List α} {values : List β}
    (ended : (list.mapM step).result = .ok values) :
    List.Forall₂ (fun element value => (step element).result = .ok value) list values := by
  induction list generalizing values with
  | nil =>
    cases ended
    exact .nil
  | cons element rest ih =>
    rw [List.mapM_cons] at ended
    obtain ⟨value, first, later⟩ := ok_of_result_bind ended
    obtain ⟨others, continued, made⟩ := ok_of_result_bind later
    cases made
    exact .cons first (ih continued)

end Traced

namespace Node

/-- The identifiers of one predicate in a pattern, with the values that it has there: those that
its values name, in order, and then its own. -/
def predicateIdentifiers (values : Value → String → List Value) (subject : Value)
    (predicate : String) : List String :=
  (values subject predicate).filterMap identifierOf ++ [predicate]

/-- The identifiers of one subject in a pattern: those of its predicates, in order, and then its
own. -/
def subjectIdentifiers (values : Value → String → List Value) (subject : Value) : List String :=
  (names subject).flatMap (predicateIdentifiers values subject) ++
    (identifier subject).text?.toList

/-- The identifiers of a pattern, in the order of its subjects. -/
def patternIdentifiers (values : Value → String → List Value) (pattern : Value) : List String :=
  (pattern.elements?.getD []).flatMap (subjectIdentifiers values)

end Node

namespace Accessor

/-- Wherever an accessor gives the values of a predicate of an object, they are the given ones. -/
def Lists (accessor : Accessor) (values : Value → String → List Value) : Prop :=
  ∀ (node : Value) (predicate : String) (listed : List Value), node.isObject = true →
    accessor.getValues node (.text predicate) = .ok listed → listed = values node predicate

/-- Every accessor gives some values or other; where it fails, any will do. -/
theorem lists_own (accessor : Accessor) : ∃ values, accessor.Lists values := by
  refine ⟨fun node predicate =>
    match accessor.getValues node (.text predicate) with
    | .ok listed => listed
    | .error _ => [], fun node predicate listed object given => ?_⟩
  dsimp only
  rw [given]

/-- An accessor that answers all questions gives the values that it answers with. -/
theorem Gives.lists {accessor : Accessor} {answers : Answers} (gives : accessor.Gives answers) :
    accessor.Lists answers.values := by
  intro node predicate listed object given
  rw [gives.getValues node predicate object] at given
  exact (Except.ok.inj given).symm

/-- An accessor that answers only as another one does gives its values. -/
theorem AgreesWith.lists {accessor other : Accessor} {values : Value → String → List Value}
    (agrees : accessor.AgreesWith other) (lists : other.Lists values) : accessor.Lists values :=
  fun node predicate listed object given =>
    lists node predicate listed object (agrees.getValues node predicate listed object given)

end Accessor

namespace Matcher

variable {equal : EqualityTest} {α : Type}

/-- Whatever source a computation ends with, it binds the given names. -/
def BuildsSpan (equal : EqualityTest) (names : List String) (build : Logged Source) : Prop :=
  ∀ source, build.result = .ok source → source.Spans equal names

namespace BuildsSpan

variable {names : List String}

/-- A source that is given at once. -/
theorem pure {source : Source} (spans : source.Spans equal names) :
    BuildsSpan equal names (Pure.pure source) := by
  rintro _ ⟨⟩
  exact spans

/-- A computation goes on with what came before. -/
theorem bind {first : Logged α} {next : α → Logged Source}
    (after : ∀ value, first.result = .ok value → BuildsSpan equal names (next value)) :
    BuildsSpan equal names (first >>= next) := by
  intro source ended
  obtain ⟨value, before, later⟩ := Traced.ok_of_result_bind ended
  exact after value before source later

/-- A guard leaves what was built, or a failure that finds nothing. -/
theorem guarded {part : String} {build : Logged Source} (builds : BuildsSpan equal names build) :
    BuildsSpan equal names (Matcher.guarded part build) := by
  unfold Matcher.guarded
  split
  · rintro _ ⟨⟩
    exact Source.spans_of_found_eq_nil rfl
  · exact builds

/-- Sources that are built one after the other and joined bind what each of them binds. -/
theorem joinAll {list : List α} {step : α → Logged Source} {namesOf : α → List String}
    (each : ∀ element, BuildsSpan equal (namesOf element) (step element)) :
    BuildsSpan equal (list.flatMap namesOf) (do return .joinAll (← list.mapM step)) := by
  refine bind fun sources built => pure ?_
  exact Source.spans_joinAll
    ((Traced.forall₂_of_result_mapM built).imp fun element source => each element source)

/-- Sources that are built one after the other and put in a union bind what all of them bind. -/
theorem union {list : List α} {step : α → Logged Source}
    (each : ∀ element, BuildsSpan equal names (step element)) :
    BuildsSpan equal names (do return .union (← list.mapM step)) := by
  refine bind fun sources built => pure ?_
  exact Source.spans_union
    ((Traced.forall₂_of_result_mapM built).imp fun element source => each element source)

end BuildsSpan

variable (equal) (matcher : Matcher) (declared : List String)

/-- Matching an object binds the variable that it names, if it names one. -/
theorem span_matchObject (subject predicate object : Value) :
    BuildsSpan equal (matcher.objectVariable? declared object).toList
      (matcher.matchObject declared subject predicate object) := by
  unfold matchObject
  apply BuildsSpan.guarded
  cases matcher.objectVariable? declared object with
  | some name =>
    refine BuildsSpan.bind fun values _ => BuildsSpan.pure ?_
    have paired : List.Forall₂ (fun _ => Source.Spans equal [name]) values
        (values.map fun value => Source.single (Binding.single name value)) := by
      rw [List.forall₂_map_right_iff, List.forall₂_same]
      exact fun value _ => Source.spans_single name value
    exact Source.spans_union paired
  | none =>
    refine BuildsSpan.bind fun present _ => BuildsSpan.pure ?_
    cases present with
    | true => exact Source.spans_compatible equal
    | false => exact Source.spans_of_found_eq_nil rfl

/-- Matching the objects of a predicate binds the variables among what they name. -/
theorem span_matchObjects (subject predicate : Value) (objects : List Value) :
    BuildsSpan equal ((objects.filterMap identifierOf).filter (matcher.isVariable declared))
      (matcher.matchObjects declared subject predicate objects) := by
  rw [List.filter_filterMap, List.filterMap_eq_flatMap_toList]
  exact BuildsSpan.joinAll fun object =>
    span_matchObject equal matcher declared subject predicate object

variable {values : Value → String → List Value} {matcher}

/-- Matching a predicate binds the variables among its identifiers. -/
theorem span_matchPredicate (lists : matcher.accessor.Lists values) (subject : Value)
    {pattern : Value} (described : pattern.isObject = true) (predicate : String) :
    BuildsSpan equal
      ((Node.predicateIdentifiers values pattern predicate).filter (matcher.isVariable declared))
      (matcher.matchPredicate declared subject pattern (.text predicate)) := by
  unfold matchPredicate
  refine BuildsSpan.guarded (BuildsSpan.bind fun objects answered => ?_)
  obtain rfl := lists pattern predicate objects described answered
  have among := fun name =>
    span_matchObjects equal matcher declared subject name (values pattern predicate)
  rw [asVariable?_text, Node.predicateIdentifiers, List.filter_append]
  by_cases ranging : matcher.isVariable declared predicate = true
  · rw [if_pos ranging, List.filter_cons_of_pos ranging, List.filter_nil]
    refine BuildsSpan.bind fun names _ => BuildsSpan.union fun name => ?_
    refine BuildsSpan.bind fun source built => BuildsSpan.pure ?_
    exact (among name source built).extend predicate name
  · rw [if_neg ranging, List.filter_cons_of_neg ranging, List.filter_nil, List.append_nil]
    refine BuildsSpan.bind fun present _ => ?_
    cases present with
    | true => exact among (.text predicate)
    | false => exact BuildsSpan.pure (Source.spans_of_found_eq_nil rfl)

/-- Matching all predicates of a subject binds the variables among the identifiers of each. -/
theorem span_matchPredicates (lists : matcher.accessor.Lists values) (subject : Value)
    {pattern : Value} (described : pattern.isObject = true) :
    BuildsSpan equal
      (((Node.names pattern).flatMap (Node.predicateIdentifiers values pattern)).filter
        (matcher.isVariable declared))
      (matcher.matchPredicates declared subject pattern) := by
  unfold matchPredicates
  rw [Node.predicates_eq described, List.filter_flatMap]
  refine BuildsSpan.bind fun predicates offered => ?_
  cases offered
  rw [List.mapM_map]
  exact BuildsSpan.joinAll fun name =>
    span_matchPredicate equal declared lists subject described name

/-- Matching a subject binds the variables among its identifiers. -/
theorem span_matchSubject (lists : matcher.accessor.Lists values) (graph pattern : Value) :
    BuildsSpan equal
      ((Node.subjectIdentifiers values pattern).filter (matcher.isVariable declared))
      (matcher.matchSubject declared graph pattern) := by
  unfold matchSubject
  refine BuildsSpan.guarded (BuildsSpan.bind fun identifier read => ?_)
  have described : pattern.isObject = true := by
    cases pattern with
    | object members => rfl
    | _ => cases read
  rw [Node.member_id_eq described] at read
  obtain rfl : Node.identifier pattern = identifier := Except.ok.inj read
  have among := fun node =>
    span_matchPredicates equal declared lists node described
  have own : (Node.identifier pattern).text?.toList.filter (matcher.isVariable declared) =
      (matcher.asVariable? declared (Node.identifier pattern)).toList :=
    (Option.toList_filter).symm
  rw [Node.subjectIdentifiers, List.filter_append, own]
  cases matcher.asVariable? declared (Node.identifier pattern) with
  | some name =>
    refine BuildsSpan.bind fun nodes _ => BuildsSpan.union fun node => ?_
    refine BuildsSpan.bind fun source built => BuildsSpan.bind fun value _ => BuildsSpan.pure ?_
    exact (among node source built).extend name value
  | none =>
    rw [Option.toList_none, List.append_nil]
    refine BuildsSpan.bind fun found _ => ?_
    cases found with
    | some node => exact among node
    | none => exact BuildsSpan.pure (Source.spans_of_found_eq_nil rfl)

/-- Matching all subjects of a pattern binds the variables among its identifiers. -/
theorem span_matchSubjects (lists : matcher.accessor.Lists values) (graph pattern : Value) :
    BuildsSpan equal
      ((Node.patternIdentifiers values pattern).filter (matcher.isVariable declared))
      (matcher.matchSubjects declared graph pattern) := by
  unfold matchSubjects
  refine BuildsSpan.bind fun subjects offered => ?_
  have listed : pattern.elements?.getD [] = subjects := by
    rw [Traced.result_ofExcept, Value.elements] at offered
    cases elements : pattern.elements? with
    | none =>
      rw [elements] at offered
      cases offered
    | some items =>
      rw [elements] at offered
      exact Except.ok.inj offered
  rw [Node.patternIdentifiers, listed, List.filter_flatMap]
  exact BuildsSpan.joinAll fun subject => span_matchSubject equal declared lists graph subject

/-- Matching a pattern binds the declared names among its identifiers. -/
theorem span_matchPattern (lists : matcher.accessor.Lists values) (graph pattern : Value) :
    BuildsSpan equal ((Node.patternIdentifiers values pattern).filter declared.contains)
      (matcher.matchPattern graph pattern declared) := by
  have ranging : ((Node.patternIdentifiers values pattern).filter
      (matcher.isVariable declared)).filter declared.contains =
        (Node.patternIdentifiers values pattern).filter declared.contains := by
    rw [List.filter_filter]
    refine List.filter_congr fun name _ => ?_
    rw [isVariable]
    cases declared.contains name
    · rfl
    · exact Bool.or_true _
  rw [← ranging]
  refine BuildsSpan.bind fun source built => BuildsSpan.pure ?_
  exact (span_matchSubjects equal declared lists graph pattern source built).project declared

/-- All bindings of a match have the same variables in the same order, and the pattern decides
which. Every accessor gives values to the predicates of a pattern, as far as it does not fail.
With these, and whatever the graph, the variables of a binding are the declared names among the
identifiers of the pattern, each once and in the order of their first occurrence. The identifiers
stand subject by subject, within a subject predicate by predicate, and within a predicate those of
its objects come first and then its own; the identifier of the subject comes last. For a graph and
a pattern made of objects there is such a source, provided that the accessor fails only as accessors
do. -/
theorem keys_matchPattern (matcher : Matcher) (graph pattern : Value) (declared : List String) :
    (∃ values, matcher.accessor.Lists values) ∧
    (matcher.accessor.Guarded → ∀ nodes subjects : List Value, graph = .list nodes →
      pattern = .list subjects → (∀ node ∈ nodes, node.isObject = true) →
      (∀ subject ∈ subjects, subject.isObject = true) →
      ∃ source, (matcher.matchPattern graph pattern declared).result = .ok source) ∧
    ∀ values, matcher.accessor.Lists values →
      ∀ source, (matcher.matchPattern graph pattern declared).result = .ok source →
        ∀ binding ∈ source.bindings matcher.equality,
          binding.keys =
            (Node.patternIdentifiers values pattern).eraseDups.filter declared.contains := by
  refine ⟨matcher.accessor.lists_own, fun promised nodes subjects isGraph isPattern objects
    described => ?_, fun values lists source built binding shown => ?_⟩
  · subst isGraph isPattern
    exact ⟨_, result_matchPattern promised objects described⟩
  · have found := (Source.bindings_isPrefix_found source).subset shown
    rw [← eraseDups_filter]
    exact span_matchPattern _ declared lists graph pattern source built binding found

/-- Two objects, a predicate that is a variable, a name that is not declared and a variable in two
places; one node cannot be read. -/
theorem keys_matchPattern_failing :
    let node (name : String) : Value := .object [("@id", .text name), ("p", .list [.text "v"])]
    let pattern : Value := .object [("@id", .text "?s"), ("p", .list [.text "?o", .text "_:b"]),
      ("?p", .list [.text "?o"])]
    let matcher : Matcher := ⟨.failing "b" [.getValues], .sameTerm, "_:"⟩
    ∃ source,
      (matcher.matchPattern (.list [node "a", node "b"]) (.list [pattern])
        ["?s", "?p", "?o"]).result = .ok source ∧
      (source.bindings matcher.equality).length = 1 ∧
      (Event.faults (source.walk matcher.equality).elements).length = 1 ∧
      ∀ binding ∈ source.bindings matcher.equality, binding.keys = ["?o", "?p", "?s"] := by
  intro node pattern matcher
  have shows : let source := matcher.patternSource ["?s", "?p", "?o"] [node "a", node "b"] [pattern]
      (source.bindings matcher.equality).length = 1 ∧
        (Event.faults (source.walk matcher.equality).elements).length = 1 ∧
        (Node.patternIdentifiers Node.valuesOf (.list [pattern])).eraseDups.filter
          ["?s", "?p", "?o"].contains = ["?o", "?p", "?s"] := by
    decide +kernel +revert
  obtain ⟨one, fault, named⟩ := shows
  have lists : matcher.accessor.Lists Node.valuesOf :=
    (Accessor.failing_agreesWith_static "b" [.getValues]).lists
      (Accessor.gives_reading Accessor.flattenStatic Value.sameTerm).lists
  have built : (matcher.matchPattern (.list [node "a", node "b"]) (.list [pattern])
      ["?s", "?p", "?o"]).result =
        .ok (matcher.patternSource ["?s", "?p", "?o"] [node "a", node "b"] [pattern]) :=
    result_matchPattern (Accessor.guarded_failing "b" [.getValues])
      (by simp [node, Value.isObject]) (by simp [pattern, Value.isObject])
  refine ⟨_, built, one, fault, fun binding shown => ?_⟩
  rw [(keys_matchPattern matcher _ _ _).2.2 _ lists _ built binding shown, named]

end Matcher

end GraphPattern
