import GraphPattern.Proofs.Finding
import GraphPattern.Proofs.Layout
import GraphPattern.Proofs.Transfer
import Mathlib.Data.List.Forall2

/-!
# Growing graphs

A graph grows by further nodes, by further predicates in its nodes and by
further values in the lists of its predicates, and each of them may come
anywhere. Whatever a pattern asks of a graph is answered with yes by the grown
graph too, an identifier is found again, and whatever is gone through in order
is gone through again in that order, with something in between.

Main statement: a pattern finds in the grown graph all that it found before, in
the same order and as often. Values are compared in the same pairs as before
and in further ones, so the test of equality may be any.
-/

namespace GraphPattern

section Embedding

variable {α β : Type} {related : α → β → Prop} {list : List α} {others : List β}

/-- Elements of a list that is embedded in another one are related to elements of that. -/
theorem exists_related_of_mem (embedded : List.SublistForall₂ related list others) {element : α}
    (member : element ∈ list) : ∃ other ∈ others, related element other := by
  induction embedded with
  | nil => cases member
  | cons first rest ih =>
    rcases List.mem_cons.1 member with rfl | later
    · exact ⟨_, List.mem_cons_self, first⟩
    · obtain ⟨other, inRest, holds⟩ := ih later
      exact ⟨other, List.mem_cons_of_mem _ inRest, holds⟩
  | cons_right rest ih =>
    obtain ⟨other, inRest, holds⟩ := ih member
    exact ⟨other, List.mem_cons_of_mem _ inRest, holds⟩

/-- An embedding holds for another relation if that follows for the elements of the list. -/
theorem embedded_of_related {relatedOther : α → β → Prop}
    (embedded : List.SublistForall₂ related list others)
    (each : ∀ element ∈ list, ∀ other, related element other → relatedOther element other) :
    List.SublistForall₂ relatedOther list others := by
  induction embedded with
  | nil => exact .nil
  | cons first rest ih =>
    rw [List.forall_mem_cons] at each
    exact .cons (each.1 _ first) (ih each.2)
  | cons_right rest ih => exact .cons_right (ih each)

/-- What related elements have in common stands in a list that is embedded in another one as it
does in that. -/
theorem sublist_map_of_embedded {γ : Type} {image : α → γ} {imageOther : β → γ}
    (common : ∀ element other, related element other → image element = imageOther other)
    (embedded : List.SublistForall₂ related list others) :
    (list.map image).Sublist (others.map imageOther) := by
  induction embedded with
  | nil => exact List.nil_sublist _
  | cons first rest ih =>
    rw [List.map_cons, List.map_cons, common _ _ first]
    exact ih.cons_cons _
  | cons_right rest ih => exact ih.cons _

end Embedding

namespace Node

/-- An object, in which no name repeats, and the same object with further members in any places and
further values in the lists of its members. -/
inductive Grown : Value → Value → Prop where
  /-- Members are found again by their names, in order. -/
  | object {members others : Entries Value} (distinct : (Entries.keys others).Nodup)
      (embedded : List.SublistForall₂ (MemberOver List.Sublist) members others) :
      Grown (.object members) (.object others)

namespace Grown

variable {node other : Value} {name : String}

/-- Both are objects. -/
theorem isObject (grown : Grown node other) : node.isObject = true ∧ other.isObject = true := by
  cases grown with
  | object distinct embedded => exact ⟨rfl, rfl⟩

/-- The names are found again, in order. -/
theorem names_sublist (grown : Grown node other) : (names node).Sublist (names other) := by
  cases grown with
  | object distinct embedded =>
    exact (sublist_map_of_embedded (fun _ _ linked => linked.name_eq) embedded).filter _

/-- What stands under a name is found again under it. -/
theorem member?_linked (grown : Grown node other) {first : Value}
    (held : node.member? name = some first) :
    ∃ second, other.member? name = some second ∧
      MemberOver List.Sublist (name, first) (name, second) := by
  cases grown with
  | object distinct embedded =>
    obtain ⟨⟨otherName, second⟩, inOthers, linked⟩ :=
      exists_related_of_mem embedded (Entries.mem_of_get?_eq_some held)
    obtain rfl : name = otherName := linked.name_eq
    exact ⟨second, Entries.get?_of_mem distinct inOthers, linked⟩

/-- An object that has an `@id` keeps it. -/
theorem identifier_eq (grown : Grown node other) {first : Value}
    (held : node.member? "@id" = some first) : identifier node = identifier other := by
  obtain ⟨second, given, linked⟩ := grown.member?_linked held
  rw [identifier, identifier, held, given, linked.value_eq]

/-- Under any other name stands a list, and a longer one later. -/
theorem member?_lists (grown : Grown node other) (different : name ≠ "@id") {first : Value}
    (held : node.member? name = some first) :
    ∃ items longer, first = .list items ∧ other.member? name = some (.list longer) ∧
      items.Sublist longer := by
  obtain ⟨second, given, linked⟩ := grown.member?_linked held
  cases linked with
  | identifier value => exact absurd rfl different
  | values _ lists => exact ⟨_, _, rfl, given, lists⟩

/-- The values under a name are found again, in order. -/
theorem valuesOf_sublist (grown : Grown node other) (different : name ≠ "@id") :
    (valuesOf node name).Sublist (valuesOf other name) := by
  unfold valuesOf
  cases held : node.member? name with
  | none => exact List.nil_sublist _
  | some first =>
    obtain ⟨items, longer, rfl, given, lists⟩ := grown.member?_lists different held
    rw [given]
    exact lists

/-- A test of what stands under a name still passes, if it passes for a longer list whenever it does
for a list. -/
theorem any_member?_later (grown : Grown node other) (different : name ≠ "@id")
    {test : Value → Bool} (longer : ∀ items others : List Value, items.Sublist others →
      test (.list items) = true → test (.list others) = true)
    (passed : (node.member? name).any test = true) : (other.member? name).any test = true := by
  cases held : node.member? name with
  | none =>
    rw [held] at passed
    cases passed
  | some first =>
    obtain ⟨items, others, rfl, given, lists⟩ := grown.member?_lists different held
    rw [held] at passed
    rw [given]
    exact longer items others lists passed

/-- A test that some item of a list passes is passed by an item of a longer list. -/
theorem any_later {items others : List Value} (lists : items.Sublist others) {test : Value → Bool}
    (passed : items.any test = true) : others.any test = true := by
  obtain ⟨item, member, holds⟩ := List.any_eq_true.1 passed
  exact List.any_eq_true.2 ⟨item, lists.subset member, holds⟩

variable {same : Value → Value → Bool}

/-- A predicate with values has values later. -/
theorem hasProperty_later (grown : Grown node other) (different : name ≠ "@id")
    (present : (Accessor.read same).hasProperty node name = true) :
    (Accessor.read same).hasProperty other name = true := by
  refine grown.any_member?_later different (fun items others lists offered => ?_) present
  cases others with
  | nil =>
    rw [List.sublist_nil.1 lists] at offered
    exact offered
  | cons item rest => rfl

/-- A value that is there is there later. -/
theorem hasValue_later (grown : Grown node other) (different : name ≠ "@id") {value : Value}
    (present : (Accessor.read same).hasValue node name value = true) :
    (Accessor.read same).hasValue other name value = true := by
  rcases Bool.or_eq_true_iff.1 present with among | compared
  · exact Bool.or_eq_true_iff.2 (.inl
      (grown.any_member?_later different (fun _ _ lists isAmong => any_later lists isAmong) among))
  · exact Bool.or_eq_true_iff.2 (.inr (any_later (grown.valuesOf_sublist different) compared))

end Grown

/-- A graph grows into another: its nodes, which have texts as their `@id`, are found again, each
one grown, among nodes that are objects with different `@id`s. -/
structure Grows (before after : List Value) : Prop where
  /-- The nodes have texts as their `@id`. -/
  named : ∀ node ∈ before, ∃ identifier, node.member? "@id" = some (.text identifier)
  /-- The nodes are found again, in order. -/
  embedded : List.SublistForall₂ Grown before after
  /-- All nodes are objects, the new ones too. -/
  object : ∀ node ∈ after, node.isObject = true
  /-- No two nodes have the same `@id`. -/
  distinct : (after.map identifier).Nodup

end Node

namespace Source

variable {equal : EqualityTest}

/-- All that one source finds is found by another one, in the same order and as often, and the first
can be walked through to the end if the other can. -/
structure Within (equal : EqualityTest) (source other : Source) : Prop where
  /-- What is found is found by the other. -/
  found : (source.found equal).Sublist (other.found equal)
  /-- No error ends the walk if none ends that of the other. -/
  finishes : (other.walk equal).Finishes → (source.walk equal).Finishes

namespace Within

variable {α β : Type} {source other : Source}

/-- A source is within itself. -/
theorem refl (source : Source) : Within equal source source := ⟨List.Sublist.refl _, id⟩

/-- The constant without bindings is within every source. -/
theorem incompatible (source : Source) : Within equal .incompatible source :=
  ⟨List.nil_sublist _, fun _ => rfl⟩

/-- A union is within one in which its sources are embedded. -/
theorem union {list : List α} {others : List β} {build : α → Source} {buildOther : β → Source}
    (embedded : List.SublistForall₂ (fun element other =>
      Within equal (build element) (buildOther other)) list others) :
    Within equal (.union (list.map build)) (.union (others.map buildOther)) where
  found := by
    rw [found_union, found_union, List.flatMap_map, List.flatMap_map]
    induction embedded with
    | nil => exact List.nil_sublist _
    | cons first rest ih =>
      rw [List.flatMap_cons, List.flatMap_cons]
      exact first.found.append ih
    | cons_right rest ih =>
      rw [List.flatMap_cons]
      exact ih.trans (List.sublist_append_right _ _)
  finishes := by
    intro finishes
    induction embedded with
    | nil => rfl
    | cons first rest ih =>
      have both := (Walk.finishes_append_iff _ _).1 finishes
      exact (Walk.finishes_append_iff _ _).2 ⟨first.finishes both.1, ih both.2⟩
    | cons_right rest ih => exact ih ((Walk.finishes_append_iff _ _).1 finishes).2

/-- A union of some sources is within a union of more of them. -/
theorem union_of_sublist {list others : List α} {build buildOther : α → Source}
    (sublist : list.Sublist others)
    (each : ∀ element ∈ list, Within equal (build element) (buildOther element)) :
    Within equal (.union (list.map build)) (.union (others.map buildOther)) :=
  union (List.sublistForall₂_iff.2 ⟨list, List.forall₂_same.2 each, sublist⟩)

/-- What stands in the place of bindings can be walked through if what stands in the place of all
bindings of the other source can. -/
theorem finishes_bind (within : Within equal source other) {next nextOther : Event → Walk Event}
    (passing : ∀ error, (next (.fault error)).Finishes)
    (each : ∀ binding, (nextOther (.binding binding)).Finishes → (next (.binding binding)).Finishes)
    (finishes : ((other.walk equal).bind nextOther).Finishes) :
    ((source.walk equal).bind next).Finishes :=
  finishes_bind_of_subset within.found.subset within.finishes passing each finishes

/-- Extensions are within each other if their sources are. -/
theorem extend (within : Within equal source other) (extension : Binding) :
    Within equal (.extend source extension) (.extend other extension) where
  found := Event.sublist_bindings_extensions extension within.found
  finishes := within.finishes_bind (fun _ => rfl) fun _ finishes => finishes

/-- Joins are within each other if their sources are. -/
theorem join {right rightOther : Source} (left : Within equal source other)
    (within : Within equal right rightOther) :
    Within equal (.join source right) (.join other rightOther) where
  found := Event.sublist_bindings_joined left.found within.found
  finishes := within.finishes_bind (fun _ => rfl) fun _ finishes =>
    left.finishes_bind (fun _ => rfl) (fun _ agreeing => agreeing) finishes

/-- Projections are within each other if their sources are. -/
theorem project (within : Within equal source other) (kept : List String) :
    Within equal (.project source kept) (.project other kept) where
  found := Event.sublist_bindings_restricted kept within.found
  finishes finishes :=
    (Walk.finishes_map_iff _ _).2 (within.finishes ((Walk.finishes_map_iff _ _).1 finishes))

/-- The operators that patterns are made of keep sources within each other. -/
theorem congruence : Congruence (Within equal) := ⟨refl, extend, join, project⟩

/-- What is found if a test passes is within what is found if another one does, which it does
whenever the first one does. -/
theorem of_test {passed later : Bool} (kept : passed = true → later = true)
    (within : Within equal source other) :
    Within equal (if passed then source else .incompatible)
      (if later then other else .incompatible) := by
  by_cases present : passed = true
  · rw [if_pos present, if_pos (kept present)]
    exact within
  · rw [if_neg present]
    exact .incompatible _

end Within

end Source

namespace Matcher

/-- What is found in a node is found in the grown node again. -/
theorem transfer_of_grown {equal : EqualityTest} {same : Value → Value → Bool} {node other : Value}
    (grown : Node.Grown node other) :
    NodeTransfer (Accessor.read same) (Source.Within equal) node other where
  isObject := grown.isObject.1
  isObject_other := grown.isObject.2
  names each := .union_of_sublist grown.names_sublist each
  values different _ :=
    .union_of_sublist (grown.valuesOf_sublist different) fun _ _ => .refl _
  hasProperty different within := .of_test (grown.hasProperty_later different) within
  hasValue different _ := .of_test (grown.hasValue_later different) (.refl _)

variable {before after : List Value}

/-- The node that an identifier names is found again, grown. -/
theorem firstNamed_later (grows : Node.Grows before after) {identifier node : Value}
    (found : firstNamed (Accessor.read Value.sameTerm) before identifier = some node) :
    ∃ other, firstNamed (Accessor.read Value.sameTerm) after identifier = some other ∧
      Node.Grown node other := by
  obtain ⟨other, inAfter, grown⟩ :=
    exists_related_of_mem grows.embedded (mem_of_firstNamed found)
  obtain ⟨name, held⟩ := grows.named node (mem_of_firstNamed found)
  have goesBy : Node.identifier node = .text name := by
    rw [Node.identifier, held, Option.getD_some]
  obtain rfl := (eq_of_firstNamed found goesBy).symm
  have otherGoesBy := (grown.identifier_eq held).symm.trans goesBy
  exact ⟨other, (firstNamed_text_iff grows.distinct name).2 ⟨inAfter, otherGoesBy⟩, grown⟩

/-- What is found in a graph is found in the grown graph again. -/
theorem transfer_of_grows {equal : EqualityTest} (grows : Node.Grows before after) :
    GraphTransfer (Accessor.read Value.sameTerm) (Source.Within equal) before after where
  nodes each := by
    refine .union (embedded_of_related grows.embedded fun node inGraph other grown => ?_)
    obtain ⟨identifier, held⟩ := grows.named node inGraph
    exact each node other (transfer_of_grown grown) (grown.identifier_eq held)
  named each identifier := by
    cases found : firstNamed (Accessor.read Value.sameTerm) before identifier with
    | none => exact .incompatible _
    | some node =>
      obtain ⟨other, foundLater, grown⟩ := firstNamed_later grows found
      rw [foundLater]
      exact each node other (transfer_of_grown grown)

/-- Matching is monotone in the graph. Let a graph whose nodes have different texts as their
`@id` and lists under all other names grow by new nodes, by new predicates and by new values, in
any places. Then a pattern is matched with both graphs without an error or a fault. If the
enumeration for the grown graph reaches its end, as it does unless the test of equality fails, then
so does the one before, and its bindings are a sublist of those for the grown graph. -/
theorem bindings_sublist_of_grows (documents : Entries Value) (base : Option String)
    (equality : EqualityTest) (blankStart : String) (declared : List String)
    {before after pattern : List Value} (grows : Node.Grows before after)
    (described : ∀ subject ∈ pattern, subject.isObject = true) :
    let matcher : Matcher := ⟨.jsonLd documents base, equality, blankStart⟩
    ∃ first second : Source,
      (matcher.matchPattern (.list before) (.list pattern) declared).result = .ok first ∧
      (matcher.matchPattern (.list after) (.list pattern) declared).result = .ok second ∧
      Event.faults (first.walk equality).elements = [] ∧
      Event.faults (second.walk equality).elements = [] ∧
      (equality.Total → (second.walk equality).Finishes) ∧
      ((second.walk equality).Finishes → (first.walk equality).Finishes ∧
        (first.bindings equality).Sublist (second.bindings equality)) := by
  intro matcher
  have gives : matcher.accessor.Gives (Accessor.read Value.sameTerm) :=
    Accessor.gives_jsonLd documents base
  have nodes : ∀ node ∈ before, node.isObject = true := by
    intro node inGraph
    obtain ⟨_, _, grown⟩ := exists_related_of_mem grows.embedded inGraph
    exact grown.isObject.1
  have within : Source.Within equality (matcher.patternSource declared before pattern)
      (matcher.patternSource declared after pattern) :=
    related_patternSource Source.Within.congruence gives (transfer_of_grows grows) described
  refine ⟨_, _, result_matchPattern gives.guarded nodes described,
    result_matchPattern gives.guarded grows.object described, ?_, ?_, fun total => ?_,
    fun ends => ?_⟩
  · exact (clean_patternSource gives declared nodes described).faults_elements
  · exact (clean_patternSource gives declared grows.object described).faults_elements
  · exact Source.finishes_walk total _ (known_patternSource matcher declared after pattern)
  · have finishes := within.finishes ends
    refine ⟨finishes, ?_⟩
    rw [Source.bindings_eq_found finishes, Source.bindings_eq_found ends]
    exact within.found

/-- A graph that grows by a node in front, by a predicate and by a value. -/
theorem bindings_sublist_of_grows_everywhere :
    let node (name : String) (values : List String) : Value :=
      .object [("@id", .text name), ("p", .list (values.map .text))]
    let grownNode : Value := .object [("q", .list []), ("@id", .text "a"),
      ("p", .list [.text "c", .text "b"])]
    let matcher : Matcher := ⟨.jsonLd [] none, .sameTerm, "_:"⟩
    let shown (source : Source) := (source.bindings .sameTerm).map fun binding =>
      ((binding.get? "?x").bind Value.text?, (binding.get? "?y").bind Value.text?)
    ∃ first second : Source,
      (matcher.matchPattern (.list [node "a" ["b"]]) (.list [node "?x" ["?y"]])
        ["?x", "?y"]).result = .ok first ∧
      (matcher.matchPattern (.list [node "d" ["b"], grownNode]) (.list [node "?x" ["?y"]])
        ["?x", "?y"]).result = .ok second ∧
      (first.bindings .sameTerm).Sublist (second.bindings .sameTerm) ∧
      shown first = [(some "a", some "b")] ∧
      shown second = [(some "d", some "b"), (some "a", some "c"), (some "a", some "b")] := by
  intro node grownNode matcher shown
  have grown : Node.Grown (node "a" ["b"]) grownNode :=
    .object (by decide) (.cons_right (.cons (.identifier _)
      (.cons (.values (by decide) (List.sublist_cons_self _ _)) .nil)))
  have nodes : ∀ other ∈ [node "d" ["b"], grownNode], other.isObject = true := by
    simp [node, grownNode, Value.isObject]
  have grows : Node.Grows [node "a" ["b"]] [node "d" ["b"], grownNode] := by
    refine ⟨?_, .cons_right (.cons grown .nil), nodes, ?_⟩
    · intro other member
      rw [List.mem_singleton.1 member]
      exact ⟨"a", rfl⟩
    · simp [node, grownNode, Node.identifier, Value.member?, Entries.get?]
  have described : ∀ subject ∈ [node "?x" ["?y"]], subject.isObject = true := by
    simp [node, Value.isObject]
  obtain ⟨first, second, built, builtAfter, _, _, finishes, sublist⟩ :=
    bindings_sublist_of_grows [] none .sameTerm "_:" ["?x", "?y"] grows described
  have promised : matcher.accessor.Guarded := (Accessor.gives_jsonLd [] none).guarded
  have isFirst : first = matcher.patternSource ["?x", "?y"] [node "a" ["b"]] [node "?x" ["?y"]] :=
    eq_patternSource promised (by simp [node, Value.isObject]) described built
  have isSecond : second =
      matcher.patternSource ["?x", "?y"] [node "d" ["b"], grownNode] [node "?x" ["?y"]] :=
    eq_patternSource promised nodes described builtAfter
  have total : EqualityTest.sameTerm.Total := fun first second => ⟨first.sameTerm second, rfl⟩
  refine ⟨first, second, built, builtAfter, (sublist (finishes total)).2, ?_, ?_⟩
  · rw [isFirst]
    clear * -
    subst shown matcher node
    decide +kernel
  · rw [isSecond]
    clear * -
    subst shown matcher grownNode node
    decide +kernel

end Matcher

end GraphPattern
