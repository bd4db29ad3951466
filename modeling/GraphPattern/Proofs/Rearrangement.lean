import GraphPattern.Proofs.Growth
import Mathlib.Data.Multiset.Bind

/-!
# Rearranged graphs

A graph is rearranged by permuting its nodes, the members of each node and the
values in the list of each member. A variable then ranges over the same nodes,
names or values in another order, and what is no variable has the same answer as
before, since the `@id`s of a graph are different texts and so at most one node
goes by an identifier.

Main statement: a pattern finds in the rearranged graph what it found before, as
often, but perhaps in another order. The pattern decides how bindings are merged
and compared, so each binding is found with the same variables in the same order
and with identical values, whatever the test of equality is.
-/

namespace GraphPattern

namespace Node

namespace Reordered

variable {node other : Value} {name : String}

/-- A test of what stands under a name gives the same of both objects, if it does of lists in
another order. -/
theorem any_member?_eq (reordered : Reordered node other) (different : name ≠ "@id")
    {test : Value → Bool} (unordered : ∀ items others : List Value, items.Perm others →
      test (.list items) = test (.list others)) :
    (node.member? name).any test = (other.member? name).any test := by
  rcases reordered.member?_cases name with
    ⟨absent, absentOther⟩ | ⟨first, second, held, given, linked⟩
  · rw [absent, absentOther]
  · rw [held, given]
    cases linked with
    | identifier value => exact absurd rfl different
    | values _ lists => exact unordered _ _ lists

variable {same : Value → Value → Bool}

/-- Both objects have values of the same predicates. -/
theorem hasProperty_eq (reordered : Reordered node other) (different : name ≠ "@id") :
    (Accessor.read same).hasProperty node name = (Accessor.read same).hasProperty other name :=
  reordered.any_member?_eq different fun items others lists => by
    show (!items.isEmpty) = !others.isEmpty
    rw [lists.isEmpty_eq]

/-- Both objects have the same values of a predicate. -/
theorem hasValue_eq (reordered : Reordered node other) (different : name ≠ "@id") (value : Value) :
    (Accessor.read same).hasValue node name value =
      (Accessor.read same).hasValue other name value := by
  have among : (node.member? name).any (isAmong value) = (other.member? name).any (isAmong value) :=
    reordered.any_member?_eq different fun _ _ lists => lists.any_eq
  have compared : (valuesOf node name).any (same value) = (valuesOf other name).any (same value) :=
    (reordered.valuesOf_perm different).any_eq
  show ((node.member? name).any _ || (valuesOf node name).any _) = _
  rw [among, compared]
  rfl

end Reordered

/-- A graph is another one rearranged: its nodes, which have different texts as their `@id`, are
paired off with the nodes of the other, and paired nodes are objects that differ only in the order
of their members and of the values of each. -/
structure Rearranged (graph other : List Value) : Prop where
  /-- The nodes have texts as their `@id`. -/
  named : ∀ node ∈ graph, ∃ identifier, node.member? "@id" = some (.text identifier)
  /-- No two nodes have the same `@id`. -/
  distinct : (graph.map identifier).Nodup
  /-- The nodes are paired off. -/
  paired : Multiset.Rel Reordered (graph : Multiset Value) other

namespace Rearranged

variable {graph other : List Value}

/-- A node of the graph has a partner in the other. -/
theorem exists_partner (rearranged : Rearranged graph other) {node : Value}
    (inGraph : node ∈ graph) : ∃ partner ∈ other, Reordered node partner :=
  Multiset.exists_mem_of_rel_of_mem rearranged.paired inGraph

/-- A node of the other graph is the partner of one of the graph. -/
theorem exists_node (rearranged : Rearranged graph other) {partner : Value}
    (inOther : partner ∈ other) : ∃ node ∈ graph, Reordered node partner :=
  Multiset.exists_mem_of_rel_of_mem (Multiset.rel_flip.2 rearranged.paired) inOther

/-- All nodes are objects. -/
theorem isObject (rearranged : Rearranged graph other) :
    (∀ node ∈ graph, node.isObject = true) ∧ ∀ node ∈ other, node.isObject = true := by
  constructor
  · intro node inGraph
    obtain ⟨_, _, reordered⟩ := rearranged.exists_partner inGraph
    exact reordered.isObject.1
  · intro partner inOther
    obtain ⟨_, _, reordered⟩ := rearranged.exists_node inOther
    exact reordered.isObject.2

/-- A node of the graph goes by a text. -/
theorem identifier_eq_text (rearranged : Rearranged graph other) {node : Value}
    (inGraph : node ∈ graph) : ∃ name, identifier node = .text name := by
  obtain ⟨name, held⟩ := rearranged.named node inGraph
  exact ⟨name, by rw [identifier, held, Option.getD_some]⟩

/-- No two nodes of the other graph have the same `@id` either. -/
theorem distinct_other (rearranged : Rearranged graph other) : (other.map identifier).Nodup := by
  have names : Multiset.Rel (· = ·) ((graph : Multiset Value).map identifier)
      ((other : Multiset Value).map identifier) :=
    Multiset.rel_map.2 (rearranged.paired.mono fun _ _ _ _ reordered => reordered.identifier_eq)
  have permuted : (graph.map identifier).Perm (other.map identifier) :=
    Multiset.coe_eq_coe.1 (Multiset.rel_eq.1 names)
  exact permuted.nodup_iff.1 rearranged.distinct

end Rearranged

end Node

namespace Source

variable {equal : EqualityTest}

/-- The operators that patterns are made of keep sources alike. -/
theorem Alike.congruence : Congruence (Alike equal) := ⟨refl, extend, join, project⟩

end Source

namespace Matcher

/-- The same is found in a reordered node, but for its order. -/
theorem transfer_of_reordered {equal : EqualityTest} {same : Value → Value → Bool}
    {node other : Value} (reordered : Node.Reordered node other) :
    NodeTransfer (Accessor.read same) (Source.Alike equal) node other where
  isObject := reordered.isObject.1
  isObject_other := reordered.isObject.2
  names each := .union_of_perm reordered.names_perm each
  values different _ :=
    .union_of_perm (reordered.valuesOf_perm different) fun _ _ => .refl _
  hasProperty different alike := by
    rw [reordered.hasProperty_eq different]
    split
    · exact alike
    · exact .refl _
  hasValue different _ := by
    rw [reordered.hasValue_eq different]
    exact .refl _

variable {graph other : List Value}

/-- An identifier names a node of the graph and its partner, or nothing in either graph. -/
theorem firstNamed_rearranged (rearranged : Node.Rearranged graph other) (identifier : Value) :
    Option.Rel Node.Reordered (firstNamed (Accessor.read Value.sameTerm) graph identifier)
      (firstNamed (Accessor.read Value.sameTerm) other identifier) := by
  cases found : firstNamed (Accessor.read Value.sameTerm) graph identifier with
  | some node =>
    have inGraph := mem_of_firstNamed found
    obtain ⟨partner, inOther, reordered⟩ := rearranged.exists_partner inGraph
    obtain ⟨name, goesBy⟩ := rearranged.identifier_eq_text inGraph
    obtain rfl := eq_of_firstNamed found goesBy
    have partnerGoesBy := reordered.identifier_eq.symm.trans goesBy
    rw [(firstNamed_text_iff rearranged.distinct_other name).2 ⟨inOther, partnerGoesBy⟩]
    exact .some reordered
  | none =>
    cases foundOther : firstNamed (Accessor.read Value.sameTerm) other identifier with
    | none => exact .none
    | some partner =>
      -- What is found in the other graph has a node in this one, which would have been found here.
      obtain ⟨node, inGraph, reordered⟩ := rearranged.exists_node (mem_of_firstNamed foundOther)
      obtain ⟨name, goesBy⟩ := rearranged.identifier_eq_text inGraph
      obtain rfl := eq_of_firstNamed foundOther (reordered.identifier_eq.symm.trans goesBy)
      rw [(firstNamed_text_iff rearranged.distinct name).2 ⟨inGraph, goesBy⟩] at found
      cases found

/-- The same is found in a rearranged graph, but for its order. -/
theorem transfer_of_rearranged {equal : EqualityTest} (rearranged : Node.Rearranged graph other) :
    GraphTransfer (Accessor.read Value.sameTerm) (Source.Alike equal) graph other where
  nodes each := .union (rearranged.paired.mono fun node _ partner _ reordered =>
    each node partner (transfer_of_reordered reordered) reordered.identifier_eq)
  named each identifier := by
    have picked := firstNamed_rearranged rearranged identifier
    generalize firstNamed (Accessor.read Value.sameTerm) graph identifier = first at picked
    generalize firstNamed (Accessor.read Value.sameTerm) other identifier = second at picked
    cases picked with
    | none => exact .refl _
    | some reordered => exact each _ _ (transfer_of_reordered reordered)

/-- The layout of the graph only affects the order of results. Let the nodes of a graph, the
members of each node and the values of each member be permuted, where the nodes have different
texts as their `@id` and lists under all other names. A pattern that is no list of subjects fails
in the same way for both graphs. Any other pattern is matched with both without an error or a
fault. The enumerations both reach their ends or both do not, which they do unless the test of
equality fails, and then the bindings of one are a permutation of those of the other. -/
theorem perm_bindings_of_rearranged (documents : Entries Value) (base : Option String)
    (equality : EqualityTest) (blankStart : String) (declared : List String)
    {graph other : List Value} (rearranged : Node.Rearranged graph other) (pattern : Value) :
    let matcher : Matcher := ⟨.jsonLd documents base, equality, blankStart⟩
    match patternSubjects pattern with
    | .error error =>
      (matcher.matchPattern (.list graph) pattern declared).result = .error error ∧
        (matcher.matchPattern (.list other) pattern declared).result = .error error
    | .ok _ =>
      ∃ first second : Source,
        (matcher.matchPattern (.list graph) pattern declared).result = .ok first ∧
        (matcher.matchPattern (.list other) pattern declared).result = .ok second ∧
        Event.faults (first.walk equality).elements = [] ∧
        Event.faults (second.walk equality).elements = [] ∧
        (equality.Total → (first.walk equality).Finishes) ∧
        ((first.walk equality).Finishes ↔ (second.walk equality).Finishes) ∧
        ((first.walk equality).Finishes →
          (first.bindings equality).Perm (second.bindings equality)) := by
  intro matcher
  have gives : matcher.accessor.Gives (Accessor.read Value.sameTerm) :=
    Accessor.gives_jsonLd documents base
  have matched : (matcher.matchPattern (.list graph) pattern declared).result =
      (patternSubjects pattern).map (matcher.patternSource declared graph) :=
    result_matchPattern_eq gives.guarded rearranged.isObject.1 pattern
  have matchedOther : (matcher.matchPattern (.list other) pattern declared).result =
      (patternSubjects pattern).map (matcher.patternSource declared other) :=
    result_matchPattern_eq gives.guarded rearranged.isObject.2 pattern
  cases listed : patternSubjects pattern with
  | error error =>
    rw [listed] at matched matchedOther
    exact ⟨matched, matchedOther⟩
  | ok subjects =>
    rw [listed] at matched matchedOther
    have described := isObject_of_patternSubjects listed
    have alike : Source.Alike equality (matcher.patternSource declared graph subjects)
        (matcher.patternSource declared other subjects) :=
      related_patternSource Source.Alike.congruence gives (transfer_of_rearranged rearranged)
        described
    refine ⟨_, _, matched, matchedOther, ?_, ?_, fun total => ?_, alike.finishes,
      fun finishes => ?_⟩
    · exact (clean_patternSource gives declared rearranged.isObject.1 described).faults_elements
    · exact (clean_patternSource gives declared rearranged.isObject.2 described).faults_elements
    · exact Source.finishes_walk total _ (known_patternSource matcher declared graph subjects)
    · rw [Source.bindings_eq_found finishes,
        Source.bindings_eq_found (alike.finishes.1 finishes)]
      exact alike.found

/-- Two nodes change places, and so do the members of one of them and the numbers of each member.
The test that a number is at most another is not symmetric, and nevertheless the same numbers are
found. -/
theorem perm_bindings_of_rearranged_reversed :
    let numbers (list : List Int) : Value := .list (list.map .int)
    let node : Value := .object [("@id", .text "a"), ("p", numbers [1, 2]), ("q", numbers [1, 2])]
    let turned : Value := .object [("q", numbers [2, 1]), ("p", numbers [2, 1]), ("@id", .text "a")]
    let bare : Value := .object [("@id", .text "b")]
    let subject : Value := .object [("@id", .text "?x"), ("p", .list [.text "?n"]),
      ("q", .list [.text "?n"])]
    let matcher : Matcher := ⟨.jsonLd [] none, .atMost, "_:"⟩
    let shown (source : Source) := (source.bindings .atMost).map fun binding =>
      ((binding.get? "?x").bind Value.text?, (binding.get? "?n").bind Value.integer?)
    ∃ first second : Source,
      (matcher.matchPattern (.list [node, bare]) (.list [subject]) ["?n", "?x"]).result =
        .ok first ∧
      (matcher.matchPattern (.list [bare, turned]) (.list [subject]) ["?n", "?x"]).result =
        .ok second ∧
      (first.bindings .atMost).Perm (second.bindings .atMost) ∧
      shown first = [(some "a", some 1), (some "a", some 2), (some "a", some 2)] ∧
      shown second = [(some "a", some 2), (some "a", some 2), (some "a", some 1)] := by
  intro numbers node turned bare subject matcher shown
  have distinct : (Entries.keys [("@id", Value.text "a"), ("p", numbers [1, 2]),
      ("q", numbers [1, 2])]).Nodup := by
    simp [Entries.keys]
  have backwards : (([("q", numbers [2, 1]), ("p", numbers [2, 1]), ("@id", .text "a")] :
        Entries Value) : Multiset (String × Value)) =
      ([("@id", .text "a"), ("p", numbers [2, 1]), ("q", numbers [2, 1])] : Entries Value) :=
    Multiset.coe_eq_coe.2 (List.reverse_perm _).symm
  have members : Multiset.Rel (Node.MemberOver List.Perm)
      ([("@id", .text "a"), ("p", numbers [1, 2]), ("q", numbers [1, 2])] : Entries Value)
      ([("q", numbers [2, 1]), ("p", numbers [2, 1]), ("@id", .text "a")] : Entries Value) := by
    rw [backwards]
    exact .cons (.identifier _) (.cons (.values (by decide) (.swap _ _ _))
      (.cons (.values (by decide) (.swap _ _ _)) .zero))
  have same : Node.Reordered bare bare :=
    .object (by simp [Entries.keys]) (.cons (.identifier _) .zero)
  have swapped : (([bare, turned] : List Value) : Multiset Value) = ([turned, bare] : List Value) :=
    Multiset.coe_eq_coe.2 (List.Perm.swap _ _ _)
  have rearranged : Node.Rearranged [node, bare] [bare, turned] := by
    refine ⟨?_, ?_, ?_⟩
    · simp [node, bare, Value.member?, Entries.get?]
    · simp [node, bare, Node.identifier, Value.member?, Entries.get?]
    · rw [swapped]
      exact .cons (.object distinct members) (.cons same .zero)
  have described : ∀ other ∈ [subject], other.isObject = true := by
    simp [subject, Value.isObject]
  have found := perm_bindings_of_rearranged [] none .atMost "_:" ["?n", "?x"] rearranged
    (.list [subject])
  rw [patternSubjects_list described] at found
  obtain ⟨first, second, built, builtOther, _, _, _, _, permuted⟩ := found
  have promised : matcher.accessor.Guarded := (Accessor.gives_jsonLd [] none).guarded
  have isFirst : first = matcher.patternSource ["?n", "?x"] [node, bare] [subject] :=
    eq_patternSource promised rearranged.isObject.1 described built
  have isSecond : second = matcher.patternSource ["?n", "?x"] [bare, turned] [subject] :=
    eq_patternSource promised rearranged.isObject.2 described builtOther
  have finishes : (first.walk .atMost).Finishes := by
    rw [isFirst]
    clear * -
    subst matcher bare subject node numbers
    exact Option.isNone_iff_eq_none.1 (by decide +kernel)
  refine ⟨first, second, built, builtOther, permuted finishes, ?_, ?_⟩
  · rw [isFirst]
    clear * -
    subst shown matcher bare subject node numbers
    decide +kernel
  · rw [isSecond]
    clear * -
    subst shown matcher bare subject turned numbers
    decide +kernel

end Matcher

end GraphPattern
