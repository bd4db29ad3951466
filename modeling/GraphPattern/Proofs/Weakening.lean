import GraphPattern.Proofs.Answering
import GraphPattern.Proofs.Mending

/-!
# What faults do to a result

Where an accessor fails, the part of a pattern that asked has a fault in its
place, and the parts beside it are the same as if it had not failed.

Main statement: if an accessor answers some questions as another one does and
fails on the rest, then the source built with the second is the one built with
the first, mended. So the bindings found with the first are some of those found
with the second, in the same order, and a result without faults is the whole
result.
-/

namespace GraphPattern

namespace Accessor

/-- Wherever an accessor answers a question about objects, another one gives the same answer. -/
structure AgreesWith (accessor other : Accessor) : Prop where
  /-- On the values of a predicate. -/
  getValues : ∀ (node : Value) (predicate : String) (values : List Value), node.isObject = true →
    accessor.getValues node (.text predicate) = .ok values →
    other.getValues node (.text predicate) = .ok values
  /-- On whether there is a value. -/
  hasValue : ∀ (node : Value) (predicate : String) (value : Value) (truth : Bool),
    node.isObject = true → accessor.hasValue node (.text predicate) value = .ok truth →
    other.hasValue node (.text predicate) value = .ok truth
  /-- On whether there is a predicate. -/
  hasProperty : ∀ (node : Value) (predicate : String) (truth : Bool), node.isObject = true →
    accessor.hasProperty node (.text predicate) = .ok truth →
    other.hasProperty node (.text predicate) = .ok truth
  /-- On whether two values are the same. -/
  compareValues : ∀ (first second : Value) (truth : Bool),
    accessor.compareValues first second = .ok truth → other.compareValues first second = .ok truth

/-- If a test answers only as another one does, then so does trying it. -/
theorem anyOf_of_agrees {test other : Value → Except Error Bool}
    (agrees : ∀ item truth, test item = .ok truth → other item = .ok truth) {items : List Value}
    {truth : Bool} (answered : anyOf test items = .ok truth) : anyOf other items = .ok truth := by
  induction items with
  | nil => exact answered
  | cons item rest ih =>
    unfold anyOf at answered ⊢
    obtain ⟨passed, tested, later⟩ := exists_of_bind_eq_ok answered
    rw [agrees item passed tested]
    cases passed with
    | true => exact later
    | false => exact ih later

/-- Two accessors that read nodes as they stand agree where their comparisons do. -/
theorem reading_agreesWith (flatten : Value → Option Value → Except Error (List Value))
    {compare other : EqualityTest}
    (agrees : ∀ first second truth, compare first second = .ok truth →
      other first second = .ok truth) :
    (reading flatten compare).AgreesWith (reading flatten other) where
  getValues node predicate values object answered := answered
  hasValue node predicate value truth object answered := by
    cases node with
    | object members =>
      rw [hasValue_reading] at answered ⊢
      by_cases among : (Entries.get? members predicate).any (Node.isAmong value) = true
      · rw [if_pos among] at answered ⊢
        exact answered
      · rw [if_neg among] at answered ⊢
        exact anyOf_of_agrees (agrees value) answered
    | _ => cases object
  hasProperty node predicate truth object answered := answered
  compareValues := agrees

/-- What is answered although it might have been refused is the answer. -/
theorem eq_ok_of_refused {α : Type} {refuses : Bool} {error : Error} {result : Except Error α}
    {value : α} (answered : (if refuses then .error error else result) = .ok value) :
    result = .ok value := by
  cases refuses with
  | true => cases answered
  | false => exact answered

/-- An accessor that is made to fail answers, where it does, as the one that does not fail. -/
theorem failing_agreesWith_static (identifier : String) (questions : List Question) :
    (failing identifier questions).AgreesWith static := by
  have compare : ∀ first second truth,
      (failing identifier questions).compareValues first second = .ok truth →
      EqualityTest.sameTerm first second = .ok truth :=
    fun first second truth answered => eq_ok_of_refused answered
  have sound := reading_agreesWith flattenStatic compare
  exact ⟨
    fun node predicate values object answered =>
      sound.getValues node predicate values object (eq_ok_of_refused answered),
    fun node predicate value truth object answered =>
      sound.hasValue node predicate value truth object (eq_ok_of_refused answered),
    fun node predicate truth object answered =>
      sound.hasProperty node predicate truth object (eq_ok_of_refused answered), compare⟩

end Accessor

namespace Matcher

variable {matcher : Matcher} {other : Accessor}

/-- Where one build goes on after the same answers as another, or fails, the source that it settles
to is mended by the other's if that is so for what follows the answers. -/
theorem mended_settled_bind {α : Type} {answer otherAnswer : Except Error α}
    {next otherNext : α → Except Error Source}
    (agrees : ∀ value, answer = .ok value → otherAnswer = .ok value)
    (each : ∀ value, answer = .ok value →
      Source.Mended (fun _ => True) (settled (next value)) (settled (otherNext value))) :
    Source.Mended (fun _ => True) (settled (answer >>= next))
      (settled (otherAnswer >>= otherNext)) := by
  cases answered : answer with
  | error error => exact .replaced trivial
  | ok value =>
    rw [agrees value answered]
    exact each value answered

/-- The source of an object has failures of the accessor at most. -/
theorem mended_objectSource (agrees : matcher.accessor.AgreesWith other) (declared : List String)
    {node : Value} (subject : node.isObject = true) (predicate : String) (object : Value) :
    Source.Mended (fun _ => True) (matcher.objectSource declared node predicate object)
      ({ matcher with accessor := other }.objectSource declared node predicate object) := by
  have sameVariable : { matcher with accessor := other }.objectVariable? declared object =
      matcher.objectVariable? declared object := rfl
  rw [objectSource, objectSource, sameVariable]
  cases matcher.objectVariable? declared object with
  | some name =>
    apply mended_settled_bind
    · exact fun values => agrees.getValues node predicate values subject
    · exact fun values _ => .same _
  | none =>
    apply mended_settled_bind
    · exact fun present => agrees.hasValue node predicate object present subject
    · exact fun present _ => .same _

/-- The source of all objects for one predicate is mended object by object. -/
theorem mended_objectsSource (agrees : matcher.accessor.AgreesWith other) (declared : List String)
    {node : Value} (subject : node.isObject = true) (predicate : String) (objects : List Value) :
    Source.Mended (fun _ => True) (matcher.objectsSource declared node predicate objects)
      ({ matcher with accessor := other }.objectsSource declared node predicate objects) :=
  .joinAll_map fun object _ => mended_objectSource agrees declared subject predicate object

/-- The source of a predicate is mended where the accessor fails. -/
theorem mended_predicateSource (agrees : matcher.accessor.AgreesWith other)
    (declared : List String) {node pattern : Value} (subject : node.isObject = true)
    (described : pattern.isObject = true) (predicate : String) :
    Source.Mended (fun _ => True) (matcher.predicateSource declared node pattern predicate)
      ({ matcher with accessor := other }.predicateSource declared node pattern predicate) := by
  unfold predicateSource
  apply mended_settled_bind
  · exact fun values => agrees.getValues pattern predicate values described
  · intro objects _
    show Source.Mended _ _
      (settled (if matcher.isVariable declared predicate then _ else _))
    by_cases ranging : matcher.isVariable declared predicate = true
    · rw [if_pos ranging, if_pos ranging]
      apply Source.Mended.union_map
      intro name _
      exact .extend (mended_objectsSource agrees declared subject name objects) _
    · rw [if_neg ranging, if_neg ranging]
      apply mended_settled_bind
      · exact fun present => agrees.hasProperty node predicate present subject
      · intro present _
        cases present with
        | true => exact mended_objectsSource agrees declared subject predicate objects
        | false => exact .same _

/-- The source of all predicates of a subject is mended predicate by predicate. -/
theorem mended_predicatesSource (agrees : matcher.accessor.AgreesWith other)
    (declared : List String) {node pattern : Value} (subject : node.isObject = true)
    (described : pattern.isObject = true) :
    Source.Mended (fun _ => True) (matcher.predicatesSource declared node pattern)
      ({ matcher with accessor := other }.predicatesSource declared node pattern) :=
  .joinAll_map fun predicate _ =>
    mended_predicateSource agrees declared subject described predicate

/-- A search that ends among some nodes ends there with every accessor that agrees. -/
theorem located_of_agrees (agrees : matcher.accessor.AgreesWith other) {identifier : Value}
    {graph : List Value} {found : Option Value}
    (ended : matcher.located identifier graph = .ok found) :
    { matcher with accessor := other }.located identifier graph = .ok found := by
  induction graph with
  | nil => exact ended
  | cons node rest ih =>
    unfold located at ended ⊢
    obtain ⟨same, answered, later⟩ := exists_of_bind_eq_ok ended
    rw [agrees.compareValues _ _ same answered]
    cases same with
    | true => exact later
    | false => exact ih later

/-- What an identifier names is the same with every accessor that agrees. -/
theorem sought_of_agrees (agrees : matcher.accessor.AgreesWith other) {graph : List Value}
    {identifier : Value} {found : Option Value}
    (ended : matcher.sought graph identifier = .ok found) :
    { matcher with accessor := other }.sought graph identifier = .ok found := by
  cases identifier with
  | null => exact ended
  | _ => exact located_of_agrees agrees ended

/-- The source of a subject is mended where the accessor fails. -/
theorem mended_subjectSource (agrees : matcher.accessor.AgreesWith other)
    (declared : List String) {graph : List Value} (nodes : ∀ node ∈ graph, node.isObject = true)
    {pattern : Value} (described : pattern.isObject = true) :
    Source.Mended (fun _ => True) (matcher.subjectSource declared graph pattern)
      ({ matcher with accessor := other }.subjectSource declared graph pattern) := by
  have sameVariable :
      { matcher with accessor := other }.asVariable? declared (Node.identifier pattern) =
        matcher.asVariable? declared (Node.identifier pattern) := rfl
  rw [subjectSource, subjectSource, sameVariable]
  cases matcher.asVariable? declared (Node.identifier pattern) with
  | some name =>
    apply Source.Mended.union_map
    intro node member
    exact .extend (mended_predicatesSource agrees declared (nodes node member) described) _
  | none =>
    apply mended_settled_bind
    · exact fun found => sought_of_agrees agrees
    · intro found ended
      cases found with
      | none => exact .same _
      | some node =>
        have subject := nodes node (mem_of_sought ended)
        exact mended_predicatesSource agrees declared subject described

/-- The source of a pattern is mended where the accessor fails. With an accessor that agrees
wherever the first one answers, the source is the same but for the failures. -/
theorem mended_patternSource (agrees : matcher.accessor.AgreesWith other)
    (declared : List String) {graph pattern : List Value}
    (nodes : ∀ node ∈ graph, node.isObject = true)
    (described : ∀ subject ∈ pattern, subject.isObject = true) :
    Source.Mended (fun _ => True) (matcher.patternSource declared graph pattern)
      ({ matcher with accessor := other }.patternSource declared graph pattern) := by
  refine .project (.joinAll_map fun subject member => ?_) declared
  exact mended_subjectSource agrees declared nodes (described subject member)

/-- Going through the source of a pattern shows weakened events if the accessor fails. -/
theorem weakened_elements (total : matcher.equality.Total)
    (agrees : matcher.accessor.AgreesWith other) (declared : List String)
    {graph pattern : List Value} (nodes : ∀ node ∈ graph, node.isObject = true)
    (described : ∀ subject ∈ pattern, subject.isObject = true) :
    Event.Weakened
      ((matcher.patternSource declared graph pattern).walk matcher.equality).elements
      (({ matcher with accessor := other }.patternSource declared graph pattern).walk
        matcher.equality).elements := by
  have weaker := known_patternSource matcher declared graph pattern
  have stronger := known_patternSource { matcher with accessor := other } declared graph
    pattern
  rw [Source.elements_walk total weaker, Source.elements_walk total stronger]
  exact (mended_patternSource agrees declared nodes described).weakens

end Matcher

end GraphPattern
