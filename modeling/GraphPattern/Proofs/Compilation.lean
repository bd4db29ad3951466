import GraphPattern.Matcher
import GraphPattern.Proofs.Listing

/-!
# The source of a pattern

Matching builds a source while it asks an accessor and writes to a log. What it
builds depends on neither the log nor the order of the questions: every part of
a pattern has a source of its own, which is a fault if a question about that
part fails, and the whole source is put together from the parts.

Main statement: for a graph and a pattern made of objects, matching always ends
with that source, provided that the accessor fails only as accessors do. No
part of the source is unknown, so it can be enumerated to its end.
-/

namespace GraphPattern

/-- The computation fails, if it does, with the failure of an accessor. -/
def OnlyAccess {α : Type} (result : Except Error α) : Prop :=
  ∀ error, result = .error error → ∃ access, error = .access access

namespace OnlyAccess

variable {α β : Type}

/-- A computation that succeeds does not fail otherwise. -/
theorem ok (value : α) : OnlyAccess (.ok value : Except Error α) := by
  intro error failed
  cases failed

/-- One computation after another fails only as either does. -/
theorem bind {first : Except Error α} {next : α → Except Error β} (before : OnlyAccess first)
    (after : ∀ value, first = .ok value → OnlyAccess (next value)) :
    OnlyAccess (first >>= next) := by
  cases ended : first with
  | error error =>
    rw [ended] at before
    intro other failed
    cases failed
    exact before error rfl
  | ok value => exact after value ended

/-- A question that may be refused with the failure of an accessor. -/
theorem refused {result : Except Error α} (only : OnlyAccess result) (refuses : Bool)
    (error : AccessError) :
    OnlyAccess (if refuses then .error (.access error) else result) := by
  cases refuses with
  | true =>
    intro other failed
    cases failed
    exact ⟨error, rfl⟩
  | false => exact only

end OnlyAccess

namespace Accessor

/-- What an accessor promises about objects: whatever question it fails to answer, it fails as
accessors do. -/
structure Guarded (accessor : Accessor) : Prop where
  /-- On the values of a predicate. -/
  getValues : ∀ (node : Value) (predicate : String), node.isObject = true →
    OnlyAccess (accessor.getValues node (.text predicate))
  /-- On whether there is a value. -/
  hasValue : ∀ (node : Value) (predicate : String) (value : Value), node.isObject = true →
    OnlyAccess (accessor.hasValue node (.text predicate) value)
  /-- On whether there is a predicate. -/
  hasProperty : ∀ (node : Value) (predicate : String), node.isObject = true →
    OnlyAccess (accessor.hasProperty node (.text predicate))
  /-- On whether two values are the same. -/
  compareValues : ∀ first second, OnlyAccess (accessor.compareValues first second)

end Accessor

namespace Traced

variable {ε α β : Type}

@[simp] theorem result_ofExcept (result : Except Error α) :
    (ofExcept result : Traced ε α).result = result := rfl

/-- Computations that all succeed give the list of what each gives. -/
theorem result_mapM {step : α → Traced ε β} {value : α → β} {list : List α}
    (each : ∀ element ∈ list, (step element).result = .ok (value element)) :
    (list.mapM step).result = .ok (list.map value) := by
  induction list with
  | nil => rfl
  | cons element rest ih =>
    rw [List.forall_mem_cons] at each
    rw [List.mapM_cons, result_bind, each.1]
    show ((rest.mapM step) >>= fun values => pure (value element :: values)).result = _
    rw [result_bind, ih each.2]
    rfl

end Traced

namespace Node

/-- The names of an object other than `@id`, in order. -/
def names : Value → List String
  | .object members => (Entries.keys members).filter fun name => name != "@id"
  | _ => []

/-- The names of an object are other than `@id`. -/
theorem ne_id_of_mem_names {node : Value} {name : String} (inNames : name ∈ names node) :
    name ≠ "@id" := by
  cases node with
  | object members => exact bne_iff_ne.1 (List.mem_filter.1 inNames).2
  | _ => cases inNames

/-- The predicates of an object are its names. -/
theorem predicates_eq {node : Value} (object : node.isObject = true) :
    predicates node = .ok ((names node).map .text) := by
  cases node with
  | object members =>
    have different : (fun name : Value => !name.equal (.text "@id")) ∘ Value.text =
        fun name => name != "@id" := by
      funext name
      show (!(name == "@id")) = _
      rfl
    show Except.ok (((Entries.keys members).map Value.text).filter _) = _
    rw [List.filter_map, different]
    rfl
  | _ => cases object

/-- Looking up the `@id` of an object succeeds. -/
theorem member_id_eq {node : Value} (object : node.isObject = true) :
    node.member "@id" = .ok (identifier node) := by
  cases node with
  | object members => rfl
  | _ => cases object

end Node

namespace Matcher

/-- The source of a part of a pattern, which is a fault if building it failed. -/
def settled : Except Error Source → Source
  | .ok source => source
  | .error error => .failure error

/-- The source of one object of a pattern. -/
def objectSource (matcher : Matcher) (declared : List String) (node : Value) (predicate : String)
    (object : Value) : Source :=
  settled <|
    match matcher.objectVariable? declared object with
    | some name => do
      let values ← matcher.accessor.getValues node (.text predicate)
      return .union (values.map fun value => .single (Binding.single name value))
    | none => do
      let present ← matcher.accessor.hasValue node (.text predicate) object
      return if present then .compatible else .incompatible

/-- The source of all objects that a pattern has for one predicate. -/
def objectsSource (matcher : Matcher) (declared : List String) (node : Value) (predicate : String)
    (objects : List Value) : Source :=
  .joinAll (objects.map (matcher.objectSource declared node predicate))

/-- The source of one predicate of a pattern. -/
def predicateSource (matcher : Matcher) (declared : List String) (node pattern : Value)
    (predicate : String) : Source :=
  settled do
    let objects ← matcher.accessor.getValues pattern (.text predicate)
    if matcher.isVariable declared predicate then
      return .union ((Node.names node).map fun name =>
        .extend (matcher.objectsSource declared node name objects)
          (Binding.single predicate (.text name)))
    else if ← matcher.accessor.hasProperty node (.text predicate) then
      return matcher.objectsSource declared node predicate objects
    else return .incompatible

/-- The source of all predicates of a pattern subject. -/
def predicatesSource (matcher : Matcher) (declared : List String) (node pattern : Value) : Source :=
  .joinAll ((Node.names pattern).map (matcher.predicateSource declared node pattern))

/-- The first of some objects that goes by an identifier. -/
def located (matcher : Matcher) (identifier : Value) : List Value → Except Error (Option Value)
  | [] => .ok none
  | node :: rest => do
    let same ← matcher.accessor.compareValues (.object [("@id", Node.identifier node)])
      (.object [("@id", identifier)])
    if same then return some node else located matcher identifier rest

/-- The object of a graph that an identifier names; null names none. -/
def sought (matcher : Matcher) (graph : List Value) : Value → Except Error (Option Value)
  | .null => .ok none
  | identifier => matcher.located identifier graph

/-- The source of one subject of a pattern. -/
def subjectSource (matcher : Matcher) (declared : List String) (graph : List Value)
    (pattern : Value) : Source :=
  settled <|
    match matcher.asVariable? declared (Node.identifier pattern) with
    | some name =>
      .ok (.union (graph.map fun node =>
        .extend (matcher.predicatesSource declared node pattern)
          (Binding.single name (Node.identifier node))))
    | none => do
      match ← matcher.sought graph (Node.identifier pattern) with
      | some node => return matcher.predicatesSource declared node pattern
      | none => return .incompatible

/-- The source of a whole pattern. -/
def patternSource (matcher : Matcher) (declared : List String) (graph pattern : List Value) :
    Source :=
  .project (.joinAll (pattern.map (matcher.subjectSource declared graph))) declared

/-- A guarded build ends with a source if it fails only as accessors do. -/
theorem result_guarded {part : String} {build : Logged Source} (only : OnlyAccess build.result) :
    (guarded part build).result = .ok (settled build.result) := by
  unfold guarded
  cases ended : build.result with
  | ok source =>
    dsimp only
    rw [ended]
    rfl
  | error error =>
    obtain ⟨access, rfl⟩ := only error ended
    rfl

variable {matcher : Matcher} {declared : List String}

/-- Matching an object ends with its source. -/
theorem result_matchObject (promised : matcher.accessor.Guarded) {node : Value}
    (subject : node.isObject = true) (predicate : String) (object : Value) :
    (matcher.matchObject declared node (.text predicate) object).result =
      .ok (matcher.objectSource declared node predicate object) := by
  unfold matchObject objectSource
  cases matcher.objectVariable? declared object with
  | some name =>
    rw [result_guarded, Traced.result_bind]
    · rfl
    · rw [Traced.result_bind]
      exact (promised.getValues node predicate subject).bind fun values _ => OnlyAccess.ok _
  | none =>
    rw [result_guarded, Traced.result_bind]
    · rfl
    · rw [Traced.result_bind]
      exact (promised.hasValue node predicate object subject).bind fun present _ => OnlyAccess.ok _

/-- Matching the objects of a predicate ends with their source. -/
theorem result_matchObjects (promised : matcher.accessor.Guarded) {node : Value}
    (subject : node.isObject = true) (predicate : String) (objects : List Value) :
    (matcher.matchObjects declared node (.text predicate) objects).result =
      .ok (matcher.objectsSource declared node predicate objects) := by
  have each : ∀ object ∈ objects,
      (matcher.matchObject declared node (.text predicate) object).result =
        .ok (matcher.objectSource declared node predicate object) :=
    fun object _ => result_matchObject promised subject predicate object
  rw [matchObjects, Traced.result_bind, Traced.result_mapM each]
  rfl

/-- A declared or blank text is the variable that it is. -/
theorem asVariable?_text (matcher : Matcher) (declared : List String) (name : String) :
    matcher.asVariable? declared (.text name) =
      if matcher.isVariable declared name then some name else none := by
  show Option.filter _ (some name) = _
  rw [Option.filter_some]

/-- A guarded build that ends as a given computation ends with the source of that. -/
theorem result_guarded_eq {part : String} {build : Logged Source} {ends : Except Error Source}
    (built : build.result = ends) (only : OnlyAccess ends) :
    (guarded part build).result = .ok (settled ends) := by
  subst built
  exact result_guarded only

/-- Matching the objects of a pattern under each of several names extends the source of each. -/
theorem result_mapM_extend (promised : matcher.accessor.Guarded) {node : Value}
    (subject : node.isObject = true) (predicate : String) (objects : List Value)
    (names : List String) :
    ((names.map Value.text).mapM fun name => do
        let source ← matcher.matchObjects declared node name objects
        return Source.extend source (Binding.single predicate name)).result =
      .ok (names.map fun name =>
        .extend (matcher.objectsSource declared node name objects)
          (Binding.single predicate (.text name))) := by
  rw [List.mapM_map]
  refine Traced.result_mapM fun name _ => ?_
  rw [Function.comp_apply, Traced.result_bind, result_matchObjects promised subject]
  rfl

/-- Matching a predicate ends with its source. -/
theorem result_matchPredicate (promised : matcher.accessor.Guarded) {node pattern : Value}
    (subject : node.isObject = true) (described : pattern.isObject = true) (predicate : String) :
    (matcher.matchPredicate declared node pattern (.text predicate)).result =
      .ok (matcher.predicateSource declared node pattern predicate) := by
  unfold matchPredicate predicateSource
  rw [asVariable?_text]
  refine result_guarded_eq ?_ ?_
  · rw [Traced.result_bind, Traced.result_ofExcept]
    congr 1
    funext objects
    by_cases ranging : matcher.isVariable declared predicate = true
    · rw [if_pos ranging, if_pos ranging]
      dsimp only
      rw [Node.predicates_eq subject, Traced.result_bind, Traced.result_ofExcept]
      show (List.mapM _ _ >>= fun sources => pure (Source.union sources) : Logged Source).result = _
      rw [Traced.result_bind, result_mapM_extend promised subject]
      rfl
    · rw [if_neg ranging, if_neg ranging]
      dsimp only
      rw [Traced.result_bind, Traced.result_ofExcept]
      congr 1
      funext present
      cases present with
      | true => exact result_matchObjects promised subject predicate objects
      | false => rfl
  · refine (promised.getValues pattern predicate described).bind fun objects _ => ?_
    by_cases ranging : matcher.isVariable declared predicate = true
    · rw [if_pos ranging]
      exact OnlyAccess.ok _
    · rw [if_neg ranging]
      refine (promised.hasProperty node predicate subject).bind fun present _ => ?_
      cases present <;> exact OnlyAccess.ok _

/-- Matching all predicates of a pattern subject ends with their source. -/
theorem result_matchPredicates (promised : matcher.accessor.Guarded) {node pattern : Value}
    (subject : node.isObject = true) (described : pattern.isObject = true) :
    (matcher.matchPredicates declared node pattern).result =
      .ok (matcher.predicatesSource declared node pattern) := by
  unfold matchPredicates
  rw [Node.predicates_eq described, Traced.result_bind, Traced.result_ofExcept]
  show (List.mapM _ _ >>= fun sources => pure (Source.joinAll sources) : Logged Source).result = _
  have each : ∀ name ∈ Node.names pattern,
      ((matcher.matchPredicate declared node pattern ∘ Value.text) name).result =
        .ok (matcher.predicateSource declared node pattern name) :=
    fun name _ => result_matchPredicate promised subject described name
  rw [Traced.result_bind, List.mapM_map, Traced.result_mapM each]
  rfl

/-- Looking for a node among objects ends as said. -/
theorem result_findAmong (matcher : Matcher) (identifier : Value) {graph : List Value}
    (nodes : ∀ node ∈ graph, node.isObject = true) :
    (matcher.findAmong identifier graph).result = matcher.located identifier graph := by
  induction graph with
  | nil => rfl
  | cons node rest ih =>
    rw [List.forall_mem_cons] at nodes
    rw [findAmong, located, Node.member_id_eq nodes.1, Traced.result_bind, Traced.result_ofExcept]
    show (Traced.ofExcept (matcher.accessor.compareValues _ _) >>= _).result = _
    rw [Traced.result_bind, Traced.result_ofExcept]
    congr 1
    funext same
    cases same with
    | true => rfl
    | false => exact ih nodes.2

/-- Looking for the node that an identifier names ends as said. -/
theorem result_findSubject (matcher : Matcher) (identifier : Value) {graph : List Value}
    (nodes : ∀ node ∈ graph, node.isObject = true) :
    (matcher.findSubject (.list graph) identifier).result = matcher.sought graph identifier := by
  cases identifier with
  | null => rfl
  | _ => exact result_findAmong matcher _ nodes

/-- Looking for a node gives one of the graph. -/
theorem mem_of_located {identifier node : Value} {graph : List Value}
    (found : matcher.located identifier graph = .ok (some node)) : node ∈ graph := by
  induction graph with
  | nil => cases found
  | cons first rest ih =>
    rw [located] at found
    obtain ⟨same, _, later⟩ := exists_of_bind_eq_ok found
    cases same with
    | true =>
      cases later
      exact List.mem_cons_self
    | false => exact List.mem_cons_of_mem _ (ih later)

/-- The node that an identifier names is one of the graph. -/
theorem mem_of_sought {identifier node : Value} {graph : List Value}
    (found : matcher.sought graph identifier = .ok (some node)) : node ∈ graph := by
  cases identifier with
  | null => cases found
  | _ => exact mem_of_located found

/-- Looking for a node fails only as accessors do. -/
theorem onlyAccess_located (promised : matcher.accessor.Guarded) (identifier : Value)
    (graph : List Value) : OnlyAccess (matcher.located identifier graph) := by
  induction graph with
  | nil => exact OnlyAccess.ok none
  | cons node rest ih =>
    refine (promised.compareValues _ _).bind fun same _ => ?_
    cases same with
    | true => exact OnlyAccess.ok _
    | false => exact ih

/-- Looking for the node that an identifier names fails only as accessors do. -/
theorem onlyAccess_sought (promised : matcher.accessor.Guarded) (graph : List Value)
    (identifier : Value) : OnlyAccess (matcher.sought graph identifier) := by
  cases identifier with
  | null => exact OnlyAccess.ok none
  | _ => exact onlyAccess_located promised _ graph

/-- Matching a subject ends with its source. -/
theorem result_matchSubject (promised : matcher.accessor.Guarded) {graph : List Value}
    (nodes : ∀ node ∈ graph, node.isObject = true) {pattern : Value}
    (described : pattern.isObject = true) :
    (matcher.matchSubject declared (.list graph) pattern).result =
      .ok (matcher.subjectSource declared graph pattern) := by
  unfold matchSubject subjectSource
  refine result_guarded_eq ?_ ?_
  · rw [Node.member_id_eq described, Traced.result_bind, Traced.result_ofExcept]
    show Traced.result (match matcher.asVariable? declared (Node.identifier pattern) with
      | some name => _
      | none => _) = _
    cases matcher.asVariable? declared (Node.identifier pattern) with
    | some name =>
      dsimp only
      have each : ∀ node ∈ graph,
          (do
            let source ← matcher.matchPredicates declared node pattern
            let value ← Traced.ofExcept (node.member "@id")
            return Source.extend source (Binding.single name value) : Logged Source).result =
          .ok (.extend (matcher.predicatesSource declared node pattern)
            (Binding.single name (Node.identifier node))) := by
        intro node member
        rw [Traced.result_bind, result_matchPredicates promised (nodes node member) described,
          Node.member_id_eq (nodes node member)]
        rfl
      show (List.mapM _ graph >>= fun sources =>
        pure (Source.union sources) : Logged Source).result = _
      rw [Traced.result_bind, Traced.result_mapM each]
      rfl
    | none =>
      dsimp only
      rw [Traced.result_bind, result_findSubject matcher _ nodes]
      cases located : matcher.sought graph (Node.identifier pattern) with
      | error error => rfl
      | ok found =>
        cases found with
        | none => rfl
        | some node =>
          exact result_matchPredicates promised (nodes node (mem_of_sought located)) described
  · cases matcher.asVariable? declared (Node.identifier pattern) with
    | some name => exact OnlyAccess.ok _
    | none =>
      refine (onlyAccess_sought promised graph _).bind fun found _ => ?_
      cases found <;> exact OnlyAccess.ok _

/-- The subject that a value in a pattern stands for. It must be an object. -/
def asSubject (value : Value) : Except Error Value := (value.member "@id").map fun _ => value

/-- The subjects of a pattern. -/
def patternSubjects (pattern : Value) : Except Error (List Value) := do
  (← pattern.elements).mapM asSubject

/-- An object stands for itself as a subject. -/
theorem asSubject_eq {value : Value} (described : value.isObject = true) :
    asSubject value = .ok value := by
  rw [asSubject, Node.member_id_eq described]
  rfl

/-- A list of objects is a pattern with these subjects. -/
theorem patternSubjects_list {pattern : List Value}
    (described : ∀ subject ∈ pattern, subject.isObject = true) :
    patternSubjects (.list pattern) = .ok pattern := by
  show pattern.mapM asSubject = _
  induction pattern with
  | nil => rfl
  | cons subject rest ih =>
    rw [List.forall_mem_cons] at described
    rw [List.mapM_cons, asSubject_eq described.1, ih described.2]
    rfl

/-- What a value stands for as a subject is an object. -/
theorem isObject_of_asSubject {value subject : Value} (taken : asSubject value = .ok subject) :
    subject.isObject = true := by
  cases value with
  | object members =>
    cases taken
    rfl
  | _ => cases taken

/-- The subjects of a pattern are objects. -/
theorem isObject_of_patternSubjects {pattern : Value} {subjects : List Value}
    (listed : patternSubjects pattern = .ok subjects) :
    ∀ subject ∈ subjects, subject.isObject = true := by
  have each : ∀ values subjects : List Value, values.mapM asSubject = .ok subjects →
      ∀ subject ∈ subjects, subject.isObject = true := by
    intro values
    induction values with
    | nil =>
      rintro subjects ⟨⟩ subject member
      cases member
    | cons value rest ih =>
      intro subjects taken
      rw [List.mapM_cons] at taken
      obtain ⟨subject, first, behind⟩ := exists_of_bind_eq_ok taken
      obtain ⟨others, later, made⟩ := exists_of_bind_eq_ok behind
      cases made
      exact List.forall_mem_cons.2 ⟨isObject_of_asSubject first, ih others later⟩
  obtain ⟨values, _, taken⟩ := exists_of_bind_eq_ok listed
  exact each values subjects taken

/-- Matching a value ends with the source of a subject, or fails as taking it for one does. -/
theorem result_matchSubject_eq (promised : matcher.accessor.Guarded) {graph : List Value}
    (nodes : ∀ node ∈ graph, node.isObject = true) (value : Value) :
    (matcher.matchSubject declared (.list graph) value).result =
      (asSubject value).map (matcher.subjectSource declared graph) := by
  cases value with
  | object members => exact result_matchSubject promised nodes rfl
  | _ => rfl

/-- Whether a pattern can be matched does not depend on the graph. Matching ends with the source
of the pattern, or fails as listing its subjects does. -/
theorem result_matchPattern_eq (promised : matcher.accessor.Guarded) {graph : List Value}
    (nodes : ∀ node ∈ graph, node.isObject = true) (pattern : Value) :
    (matcher.matchPattern (.list graph) pattern declared).result =
      (patternSubjects pattern).map (matcher.patternSource declared graph) := by
  have each : ∀ values : List Value,
      (values.mapM (matcher.matchSubject declared (.list graph))).result =
        (values.mapM asSubject).map (List.map (matcher.subjectSource declared graph)) := by
    intro values
    induction values with
    | nil => rfl
    | cons value rest ih =>
      rw [List.mapM_cons, List.mapM_cons, Traced.result_bind,
        result_matchSubject_eq promised nodes]
      cases asSubject value with
      | error error => rfl
      | ok subject =>
        show ((rest.mapM _) >>= fun sources =>
          pure (_ :: sources) : Logged (List Source)).result = _
        rw [Traced.result_bind, ih]
        cases rest.mapM asSubject <;> rfl
  unfold matchPattern matchSubjects patternSubjects
  rw [Traced.result_bind, Traced.result_bind, Traced.result_ofExcept]
  cases pattern.elements with
  | error error => rfl
  | ok values =>
    show ((values.mapM (matcher.matchSubject declared (.list graph)) >>= fun sources =>
      pure (Source.joinAll sources) : Logged Source).result >>= _) = Except.map _ (values.mapM _)
    rw [Traced.result_bind, each]
    cases values.mapM asSubject <;> rfl

/-- Matching ends with the source of the pattern. -/
theorem result_matchPattern (promised : matcher.accessor.Guarded) {graph pattern : List Value}
    (nodes : ∀ node ∈ graph, node.isObject = true)
    (described : ∀ subject ∈ pattern, subject.isObject = true) :
    (matcher.matchPattern (.list graph) (.list pattern) declared).result =
      .ok (matcher.patternSource declared graph pattern) := by
  rw [result_matchPattern_eq promised nodes, patternSubjects_list described]
  rfl

/-- A source that matching ends with is the one that is put together from the parts. -/
theorem eq_patternSource (promised : matcher.accessor.Guarded) {graph pattern : List Value}
    (nodes : ∀ node ∈ graph, node.isObject = true)
    (described : ∀ subject ∈ pattern, subject.isObject = true) {source : Source}
    (ended : (matcher.matchPattern (.list graph) (.list pattern) declared).result = .ok source) :
    source = matcher.patternSource declared graph pattern :=
  Except.ok.inj (ended.symm.trans (result_matchPattern promised nodes described))

/-- A settled build is known if what follows each answer is. -/
theorem known_settled_bind {α : Type} {answer : Except Error α} {next : α → Except Error Source}
    (each : ∀ value, answer = .ok value → (settled (next value)).Known) :
    (settled (answer >>= next)).Known := by
  cases answer with
  | ok value => exact each value rfl
  | error error => trivial

/-- The source of an object is known. -/
theorem known_objectSource (matcher : Matcher) (declared : List String) (node : Value)
    (predicate : String) (object : Value) :
    (matcher.objectSource declared node predicate object).Known := by
  unfold objectSource
  cases matcher.objectVariable? declared object with
  | some name =>
    exact known_settled_bind fun values _ => Source.known_union_map fun value _ => trivial
  | none =>
    refine known_settled_bind fun present _ => ?_
    cases present <;> trivial

/-- The source of all objects for one predicate is known. -/
theorem known_objectsSource (matcher : Matcher) (declared : List String) (node : Value)
    (predicate : String) (objects : List Value) :
    (matcher.objectsSource declared node predicate objects).Known :=
  Source.known_joinAll_map fun object _ =>
    known_objectSource matcher declared node predicate object

/-- The source of a predicate is known. -/
theorem known_predicateSource (matcher : Matcher) (declared : List String) (node pattern : Value)
    (predicate : String) : (matcher.predicateSource declared node pattern predicate).Known := by
  refine known_settled_bind fun objects _ => ?_
  by_cases ranging : matcher.isVariable declared predicate = true
  · rw [if_pos ranging]
    exact Source.known_union_map fun name _ =>
      known_objectsSource matcher declared node name objects
  · rw [if_neg ranging]
    refine known_settled_bind fun present _ => ?_
    cases present with
    | true => exact known_objectsSource matcher declared node predicate objects
    | false => trivial

/-- The source of all predicates of a pattern subject is known. -/
theorem known_predicatesSource (matcher : Matcher) (declared : List String)
    (node pattern : Value) : (matcher.predicatesSource declared node pattern).Known :=
  Source.known_joinAll_map fun predicate _ =>
    known_predicateSource matcher declared node pattern predicate

/-- The source of a subject is known. -/
theorem known_subjectSource (matcher : Matcher) (declared : List String) (graph : List Value)
    (pattern : Value) : (matcher.subjectSource declared graph pattern).Known := by
  unfold subjectSource
  cases matcher.asVariable? declared (Node.identifier pattern) with
  | some name =>
    exact Source.known_union_map fun node _ =>
      known_predicatesSource matcher declared node pattern
  | none =>
    refine known_settled_bind fun found _ => ?_
    cases found with
    | some node => exact known_predicatesSource matcher declared node pattern
    | none => trivial

/-- The source of a pattern is known, so that it can be enumerated to its end. -/
theorem known_patternSource (matcher : Matcher) (declared : List String)
    (graph pattern : List Value) : (matcher.patternSource declared graph pattern).Known :=
  Source.known_joinAll_map fun subject _ => known_subjectSource matcher declared graph subject

end Matcher

end GraphPattern
