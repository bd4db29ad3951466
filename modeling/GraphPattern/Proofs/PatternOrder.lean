import GraphPattern.Proofs.Assignment
import GraphPattern.Proofs.Layout
import GraphPattern.Proofs.Reordering

/-!
# Patterns in another order

The subjects of a pattern stand in an order, and so do the predicates of a
subject and the objects of a predicate. Each order decides how sources are joined
and so which values are compared and kept. But what is chosen does not depend on
any of them: the assignments of a pattern give the same values to the same
variables, in another order.

Main statement: if a pattern is written in another order, at any of its three
levels, then the bindings that it finds are paired off with those that it found
before, and paired bindings are alike. The test of equality must be symmetric
and transitive.
-/

namespace GraphPattern

section Unordered

variable {α β : Type}

/-- Lists that are put in the place of elements, where no order counts. -/
theorem unordered_flatMap (list : List β) (image : β → List (List α)) :
    unordered (list.flatMap image) =
      (list : Multiset β).bind fun element => unordered (image element) := by
  unfold unordered
  rw [List.map_flatMap]
  exact (Multiset.coe_bind list fun element => (image element).map Multiset.ofList).symm

/-- The same list put behind each of some lists. -/
theorem unordered_map_append (lists : List (List α)) (back : List α) :
    unordered (lists.map (· ++ back)) = (unordered lists).map (· + (back : Multiset α)) := by
  unfold unordered
  rw [Multiset.map_coe, List.map_map, List.map_map]
  rfl

/-- Lists that are the same but for the order stay so with the same list behind each. -/
theorem unordered_map_append_congr {lists others : List (List α)}
    (same : unordered lists = unordered others) (back : List α) :
    unordered (lists.map (· ++ back)) = unordered (others.map (· ++ back)) := by
  rw [unordered_map_append, unordered_map_append, same]

/-- Choosing one list from each of some lists of lists and putting the chosen ones together does not
depend on any order. -/
theorem unordered_sections_flatten (lists : List (List (List α))) :
    unordered (lists.sections.map List.flatten) =
      (Multiset.Sections (lists.map unordered : List (Multiset (Multiset α)))).map
        Multiset.sum := by
  induction lists with
  | nil => rfl
  | cons list lists ih =>
    have front : (list :: lists).sections.map List.flatten =
        (lists.sections.map List.flatten).flatMap fun back => list.map (· ++ back) := by
      rw [List.sections, List.map_flatMap, List.flatMap_map]
      simp only [List.map_map, Function.comp_def, List.flatten_cons]
    calc unordered ((list :: lists).sections.map List.flatten)
        = (unordered (lists.sections.map List.flatten)).bind fun back =>
            (unordered list).map (· + back) := by
          rw [front, unordered_flatMap]
          simp only [unordered_map_append]
          have mapped : unordered (lists.sections.map List.flatten) =
              (lists.sections.map List.flatten : Multiset (List α)).map Multiset.ofList := rfl
          rw [mapped, Multiset.bind_map]
      _ = (unordered list).bind fun chosen =>
            (unordered (lists.sections.map List.flatten)).map (chosen + ·) :=
          Multiset.bind_map_comm _ _
      _ = (Multiset.Sections ((list :: lists).map unordered : List (Multiset (Multiset α)))).map
            Multiset.sum := by
          rw [ih, List.map_cons, ← Multiset.cons_coe, Multiset.sections_cons, Multiset.map_bind]
          simp only [Multiset.map_map, Function.comp_def, Multiset.sum_cons]

/-- Lists of lists that are the same, but for all orders, offer the same choices. -/
theorem unordered_sections_flatten_congr {lists others : List (List (List α))}
    (same : (lists.map unordered).Perm (others.map unordered)) :
    unordered (lists.sections.map List.flatten) = unordered (others.sections.map List.flatten) := by
  rw [unordered_sections_flatten, unordered_sections_flatten, Multiset.coe_eq_coe.2 same]

end Unordered

section Occurrences

variable {equal : EqualityTest}

/-- Occurrences are consistent exactly if the bindings of each are accepted. -/
theorem consistent_iff_accepted (equivalence : equal.PartialEquivalence)
    (occurrences : Entries Value) :
    Consistent equal occurrences ↔ Binding.Accepted equal
      (occurrences.map fun (name, value) => Binding.single name value) := by
  rw [Binding.accepted_iff_pairwise equivalence, List.pairwise_map, Consistent]
  refine List.Pairwise.iff fun earlier later => ?_
  rw [Binding.agrees_iff]
  constructor
  · intro holds name first second given bound
    rw [Binding.get?_single, Option.ite_none_right_eq_some, Option.some.injEq] at given bound
    obtain ⟨rfl, rfl⟩ := given
    obtain ⟨same, rfl⟩ := bound
    exact equivalence.symm (holds same)
  · intro agreeing same
    have given : (Binding.single later.1 later.2).get? later.1 = some later.2 := if_pos rfl
    have bound : (Binding.single earlier.1 earlier.2).get? later.1 = some earlier.2 := if_pos same
    exact equivalence.symm (agreeing later.1 later.2 earlier.2 given bound)

/-- Choices that are the same but for the order stand for bindings that are paired off with each
other, so that paired ones are alike. -/
theorem rel_resolved (equivalence : equal.PartialEquivalence)
    {choices others : List (Entries Value)}
    (same : unordered choices = unordered others) :
    Multiset.Rel (Binding.Alike equal) (resolved equal choices : Multiset Binding)
      (resolved equal others) := by
  have singles : ∀ {first second : Entries Value}, first.Perm second →
      (first.map fun (name, value) => Binding.single name value).Perm
        (second.map fun (name, value) => Binding.single name value) :=
    fun permuted => permuted.map _
  have consistent : Multiset.Rel List.Perm
      ((choices : Multiset (Entries Value)).filter (Consistent equal))
      ((others : Multiset (Entries Value)).filter (Consistent equal)) := by
    refine rel_filter (rel_perm_of_unordered_eq same) fun first second permuted => ?_
    rw [consistent_iff_accepted equivalence, consistent_iff_accepted equivalence]
    exact Binding.accepted_iff_of_perm equivalence (singles permuted)
  show Multiset.Rel (Binding.Alike equal)
    (((choices : Multiset (Entries Value)).filter (Consistent equal)).map Binding.ofOccurrences)
    (((others : Multiset (Entries Value)).filter (Consistent equal)).map Binding.ofOccurrences)
  rw [Multiset.rel_map]
  refine consistent.mono fun first member second _ permuted => ?_
  have accepted := (consistent_iff_accepted equivalence first).1 (Multiset.mem_filter.1 member).2
  exact Binding.alike_mergeAll_of_perm equivalence accepted (singles permuted)

end Occurrences

namespace Matcher

section Choices

variable (matcher : Matcher) (declared : List String) (answers : Accessor.Answers)

/-- The values that the picks for a predicate give to the variables. -/
def predicateChoices (node pattern : Value) (predicate : String) : List (Entries Value) :=
  (matcher.predicatePicks declared answers node pattern predicate).map
    (matcher.predicateOccurrences declared answers pattern predicate)

/-- The values that the picks for a subject give to the variables. -/
def subjectChoices (graph : List Value) (pattern : Value) : List (Entries Value) :=
  (matcher.subjectPicks declared answers graph pattern).map
    (matcher.subjectOccurrences declared answers pattern)

/-- The values that the assignments of a pattern give to the variables. -/
def patternChoices (graph pattern : List Value) : List (Entries Value) :=
  (matcher.assignments declared answers graph pattern).map
    (matcher.occurrences declared answers pattern)

/-- For every name that can be picked, values are chosen for each object, and then the name for the
predicate if that is a variable. -/
theorem predicateChoices_eq (node pattern : Value) (predicate : String) :
    matcher.predicateChoices declared answers node pattern predicate =
      (matcher.pickedNames declared answers node predicate).flatMap fun name =>
        (((answers.values pattern predicate).map fun object =>
          (matcher.objectPicks declared answers node name object).map
            (matcher.objectOccurrences declared object)).sections.map List.flatten).map
        (· ++ if matcher.isVariable declared predicate then [(predicate, .text name)] else []) := by
  unfold predicateChoices predicatePicks predicateOccurrences
  rw [List.map_flatMap]
  simp only [sections_map_map, List.map_map, Function.comp_def]

/-- For every node that can be picked, values are chosen for each predicate, and then the node for
the subject if that is a variable. -/
theorem subjectChoices_eq (graph : List Value) (pattern : Value) :
    matcher.subjectChoices declared answers graph pattern =
      (matcher.pickedNodes declared answers graph pattern).flatMap fun node =>
        (((Node.names pattern).map
          (matcher.predicateChoices declared answers node pattern)).sections.map List.flatten).map
        (· ++ match matcher.asVariable? declared (Node.identifier pattern) with
          | some name => [(name, Node.identifier node)]
          | none => []) := by
  unfold subjectChoices subjectPicks subjectOccurrences predicateChoices
  rw [List.map_flatMap]
  cases matcher.asVariable? declared (Node.identifier pattern) with
  | some name => simp only [sections_map_map, List.map_map, Function.comp_def]
  | none => simp only [sections_map_map, List.map_map, Function.comp_def]

/-- Values are chosen for each subject. -/
theorem patternChoices_eq (graph pattern : List Value) :
    matcher.patternChoices declared answers graph pattern =
      (pattern.map (matcher.subjectChoices declared answers graph)).sections.map List.flatten := by
  unfold patternChoices assignments occurrences subjectChoices
  rw [sections_map_map, List.map_map]
  rfl

variable {declared} {answers}

/-- The order of the objects of a predicate does not count for its choices. -/
theorem unordered_predicateChoices {pattern other : Value} {predicate : String}
    (reordered : (answers.values pattern predicate).Perm (answers.values other predicate))
    (node : Value) :
    unordered (matcher.predicateChoices declared answers node pattern predicate) =
      unordered (matcher.predicateChoices declared answers node other predicate) := by
  rw [predicateChoices_eq, predicateChoices_eq, unordered_flatMap, unordered_flatMap]
  refine Multiset.bind_congr fun name _ => ?_
  apply unordered_map_append_congr
  apply unordered_sections_flatten_congr
  exact (reordered.map _).map _

/-- The order of the predicates of a subject and that of their objects do not count for its
choices. -/
theorem unordered_subjectChoices {same : Value → Value → Bool} {pattern other : Value}
    (reordered : Node.Reordered pattern other) (graph : List Value) :
    unordered (matcher.subjectChoices declared (Accessor.read same) graph pattern) =
      unordered (matcher.subjectChoices declared (Accessor.read same) graph other) := by
  have predicates : ∀ node, List.Perm
      (((Node.names pattern).map
        (matcher.predicateChoices declared (Accessor.read same) node pattern)).map unordered)
      (((Node.names other).map
        (matcher.predicateChoices declared (Accessor.read same) node other)).map unordered) := by
    intro node
    have each : ∀ predicate ∈ Node.names pattern,
        unordered (matcher.predicateChoices declared (Accessor.read same) node pattern predicate) =
          unordered (matcher.predicateChoices declared (Accessor.read same) node other predicate) :=
      fun predicate inNames => unordered_predicateChoices matcher
        (reordered.valuesOf_perm (Node.ne_id_of_mem_names inNames)) node
    rw [List.map_map, List.map_map]
    exact (List.Perm.of_eq (List.map_congr_left each)).trans (reordered.names_perm.map _)
  have picked : matcher.pickedNodes declared (Accessor.read same) graph pattern =
      matcher.pickedNodes declared (Accessor.read same) graph other := by
    unfold pickedNodes
    rw [reordered.identifier_eq]
  rw [subjectChoices_eq, subjectChoices_eq, picked, reordered.identifier_eq, unordered_flatMap,
    unordered_flatMap]
  refine Multiset.bind_congr fun node _ => ?_
  apply unordered_map_append_congr
  exact unordered_sections_flatten_congr (predicates node)

/-- No order in a pattern counts for its choices. -/
theorem unordered_patternChoices {same : Value → Value → Bool} {pattern other : List Value}
    (reordered : Multiset.Rel Node.Reordered (pattern : Multiset Value) other)
    (graph : List Value) :
    unordered (matcher.patternChoices declared (Accessor.read same) graph pattern) =
      unordered (matcher.patternChoices declared (Accessor.read same) graph other) := by
  rw [patternChoices_eq, patternChoices_eq]
  apply unordered_sections_flatten_congr
  rw [List.map_map, List.map_map, ← Multiset.coe_eq_coe, ← Multiset.map_coe, ← Multiset.map_coe,
    ← Multiset.rel_eq, Multiset.rel_map]
  exact reordered.mono fun _ _ _ _ subject => unordered_subjectChoices matcher subject graph

end Choices

variable {matcher : Matcher} {answers : Accessor.Answers}

/-- The bindings that a pattern finds are those of its consistent choices, restricted to the
declared variables. -/
theorem bindings_patternSource (equivalence : matcher.equality.PartialEquivalence)
    (gives : matcher.accessor.Gives answers) (declared : List String) {graph pattern : List Value}
    (nodes : ∀ node ∈ graph, node.isObject = true)
    (described : ∀ subject ∈ pattern, subject.isObject = true) :
    (matcher.patternSource declared graph pattern).bindings matcher.equality =
      (resolved matcher.equality (matcher.patternChoices declared answers graph pattern)).map
        (Binding.restricted · declared) := by
  have known := known_patternSource matcher declared graph pattern
  have resolves := resolves_subjects equivalence gives declared nodes described
  rw [Source.bindings, Source.elements_walk equivalence.total known, patternSource, Source.listing,
    Event.bindings_map_restricted, resolves, Event.bindings_map_binding]
  rfl

/-- The order in which a pattern is written does not matter, up to equal values. Let the test of
equality be symmetric and transitive. Let the subjects of a pattern, the names in each subject and
the objects under each name be permuted. Then both patterns are matched without an error or a
fault, and the bindings that they find are paired off with each other: paired bindings bind the
same variables, and the two values of each variable are identical or equal. -/
theorem rel_bindings_of_reordered (documents : Entries Value) (base : Option String)
    (blankStart : String) {equality : EqualityTest} (equivalence : equality.PartialEquivalence)
    (declared : List String) {graph pattern other : List Value}
    (nodes : ∀ node ∈ graph, node.isObject = true)
    (reordered : Multiset.Rel Node.Reordered (pattern : Multiset Value) other) :
    let matcher : Matcher := ⟨.jsonLd documents base, equality, blankStart⟩
    ∃ first second : Source,
      (matcher.matchPattern (.list graph) (.list pattern) declared).result = .ok first ∧
      (matcher.matchPattern (.list graph) (.list other) declared).result = .ok second ∧
      (first.walk equality).Finishes ∧ (second.walk equality).Finishes ∧
      Event.faults (first.walk equality).elements = [] ∧
      Event.faults (second.walk equality).elements = [] ∧
      Multiset.Rel (Binding.Alike equality) (first.bindings equality : Multiset Binding)
        (second.bindings equality) ∧
      (first.bindings equality).length = (second.bindings equality).length := by
  intro matcher
  have gives : matcher.accessor.Gives (Accessor.read Value.sameTerm) :=
    Accessor.gives_jsonLd documents base
  have described : ∀ subject ∈ pattern, subject.isObject = true := by
    intro subject member
    obtain ⟨_, _, pair⟩ := Multiset.exists_mem_of_rel_of_mem reordered member
    exact pair.isObject.1
  have describedOther : ∀ subject ∈ other, subject.isObject = true := by
    intro subject member
    obtain ⟨_, _, pair⟩ := Multiset.exists_mem_of_rel_of_mem (Multiset.rel_flip.2 reordered) member
    exact pair.isObject.2
  have total : equality.Total := equivalence.total
  have known := known_patternSource matcher declared graph pattern
  have knownOther := known_patternSource matcher declared graph other
  have paired : Multiset.Rel (Binding.Alike equality)
      ((matcher.patternSource declared graph pattern).bindings equality : Multiset Binding)
      ((matcher.patternSource declared graph other).bindings equality) := by
    have same : unordered
          (matcher.patternChoices declared (Accessor.read Value.sameTerm) graph pattern) =
        unordered (matcher.patternChoices declared (Accessor.read Value.sameTerm) graph other) :=
      unordered_patternChoices matcher reordered graph
    have resolvedPaired := rel_resolved equivalence same
    rw [bindings_patternSource equivalence gives declared nodes described,
      bindings_patternSource equivalence gives declared nodes describedOther, ← Multiset.map_coe,
      ← Multiset.map_coe, Multiset.rel_map]
    exact resolvedPaired.mono fun _ _ _ _ alike => alike.restricted declared
  refine ⟨_, _, result_matchPattern gives.guarded nodes described,
    result_matchPattern gives.guarded nodes describedOther, Source.finishes_walk total _ known,
    Source.finishes_walk total _ knownOther, ?_, ?_, paired, Multiset.card_eq_card_of_rel paired⟩
  · exact (clean_patternSource gives declared nodes described).faults_elements
  · exact (clean_patternSource gives declared nodes describedOther).faults_elements

/-- A subject whose members stand the other way round, with the objects of one of them turned round
too. Each order keeps the value that it comes to first, here a node reference and there a bare
identifier. -/
theorem rel_bindings_of_reordered_reversed :
    let equality : EqualityTest := .byImage identifierOf
    let texts (chars : List String) : Value := .list (chars.map .text)
    let node : Value :=
      .object [("@id", .text "a"), ("q", .list [.object [("@id", .text "a")]]),
        ("r", texts ["a"])]
    let subject : Value :=
      .object [("@id", .text "?x"), ("q", texts ["?x"]), ("r", texts ["?x", "?y"])]
    let turned : Value :=
      .object [("r", texts ["?y", "?x"]), ("q", texts ["?x"]), ("@id", .text "?x")]
    let matcher : Matcher := ⟨.jsonLd [] none, equality, "_:"⟩
    let shown (source : Source) := (source.bindings equality).map fun binding =>
      (binding.keys, (binding.get? "?x").bind Value.text?)
    ∃ first second : Source,
      (matcher.matchPattern (.list [node]) (.list [subject]) ["?x", "?y"]).result = .ok first ∧
      (matcher.matchPattern (.list [node]) (.list [turned]) ["?x", "?y"]).result = .ok second ∧
      Multiset.Rel (Binding.Alike equality) (first.bindings equality : Multiset Binding)
        (second.bindings equality) ∧
      shown first = [(["?x", "?y"], none)] ∧ shown second = [(["?y", "?x"], some "a")] := by
  intro equality texts node subject turned matcher shown
  have distinct : (Entries.keys [("@id", Value.text "?x"), ("q", texts ["?x"]),
      ("r", texts ["?x", "?y"])]).Nodup := by
    simp [Entries.keys]
  have backwards : (([("r", texts ["?y", "?x"]), ("q", texts ["?x"]), ("@id", .text "?x")] :
        Entries Value) : Multiset (String × Value)) =
      ([("@id", .text "?x"), ("q", texts ["?x"]), ("r", texts ["?y", "?x"])] : Entries Value) :=
    Multiset.coe_eq_coe.2 (List.reverse_perm _).symm
  have members : Multiset.Rel (Node.MemberOver List.Perm)
      ([("@id", .text "?x"), ("q", texts ["?x"]), ("r", texts ["?x", "?y"])] : Entries Value)
      ([("r", texts ["?y", "?x"]), ("q", texts ["?x"]), ("@id", .text "?x")] : Entries Value) := by
    rw [backwards]
    exact .cons (.identifier _) (.cons (.values (by decide) (.refl _))
      (.cons (.values (by decide) (.swap _ _ _)) .zero))
  have reordered : Multiset.Rel Node.Reordered ([subject] : List Value) ([turned] : List Value) :=
    .cons (.object distinct members) .zero
  have nodes : ∀ other ∈ [node], other.isObject = true := by
    simp [node, Value.isObject]
  obtain ⟨first, second, built, builtOther, _, _, _, _, paired, _⟩ :=
    rel_bindings_of_reordered [] none "_:" (EqualityTest.partialEquivalence_byImage identifierOf)
      ["?x", "?y"] nodes reordered
  have promised : matcher.accessor.Guarded := (Accessor.gives_jsonLd [] none).guarded
  have ends : first = matcher.patternSource ["?x", "?y"] [node] [subject] :=
    eq_patternSource promised nodes (by simp [subject, Value.isObject]) built
  have endsOther : second = matcher.patternSource ["?x", "?y"] [node] [turned] :=
    eq_patternSource promised nodes (by simp [turned, Value.isObject]) builtOther
  refine ⟨first, second, built, builtOther, paired, ?_, ?_⟩
  · rw [ends]
    clear * -
    subst shown matcher subject node texts equality
    decide +kernel
  · rw [endsOther]
    clear * -
    subst shown matcher turned node texts equality
    decide +kernel

end Matcher

end GraphPattern
