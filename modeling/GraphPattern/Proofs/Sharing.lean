import GraphPattern.Proofs.ExpressionGraph
import Mathlib.Algebra.BigOperators.Finprod
import Mathlib.Data.List.Perm.Basic

/-!
# Listing shared expressions

Two ways of counting meet here. How often an expression is referred to is
counted by positions, over all operators that can be reached; when an expression
is free to be listed is counted by edges, of which there is one for every
operator and different operand. The listing by generations is complete because
operands come at earlier places than their operators: among the nodes that are
left, one at the latest place has no operator left.

Main statement: the shared expressions are those that are operands at two or
more positions, each is listed once, and what contains another comes before it.
-/

namespace GraphPattern

/-- What is not allowed behind another element stands in front of it. -/
theorem idxOf_lt_of_pairwise {listed : List Nat} {allowed : Nat → Nat → Prop} {first second : Nat}
    (ordered : listed.Pairwise allowed) (here : first ∈ listed) (there : second ∈ listed)
    (different : first ≠ second) (refused : ¬ allowed second first) :
    listed.idxOf first < listed.idxOf second := by
  have firstInside := List.idxOf_lt_length_iff.2 here
  have secondInside := List.idxOf_lt_length_iff.2 there
  obtain before | same | behind := Nat.lt_trichotomy (listed.idxOf first) (listed.idxOf second)
  · exact before
  · exact absurd ((List.idxOf_inj here).1 same) different
  · have pair := List.pairwise_iff_getElem.1 ordered _ _ secondInside firstInside behind
    rw [List.getElem_idxOf, List.getElem_idxOf] at pair
    exact absurd pair refused

/-- Leaving out elements keeps the order of the others. -/
theorem idxOf_filter_lt {listed : List Nat} (keep : Nat → Bool) (distinct : listed.Nodup)
    {first second : Nat} (here : first ∈ listed.filter keep) (there : second ∈ listed.filter keep)
    (before : listed.idxOf first < listed.idxOf second) :
    (listed.filter keep).idxOf first < (listed.filter keep).idxOf second := by
  have ordered : listed.Pairwise fun one other => listed.idxOf one < listed.idxOf other :=
    List.pairwise_iff_getElem.2 fun one other inside insideToo less => by
      rwa [distinct.idxOf_getElem, distinct.idxOf_getElem]
  refine idxOf_lt_of_pairwise (ordered.filter keep) here there ?_ (Nat.lt_asymm before)
  rintro rfl
  exact Nat.lt_irrefl _ before

namespace Generations

variable {children : Nat → List Nat}

/-- Taking away some of the edges leaves the others. The nodes that become free are those that had
one of these edges and have none of the others. -/
theorem release_of_perm {ends edges others : List Nat} (split : edges.Perm (ends ++ others)) :
    ∃ freed left, release ends edges = some (freed, left) ∧ left.Perm others ∧ freed.Nodup ∧
      ∀ node, node ∈ freed ↔ node ∈ ends ∧ node ∉ others := by
  induction ends generalizing edges with
  | nil => exact ⟨[], edges, rfl, split, List.nodup_nil, fun node => by simp⟩
  | cons node ends ih =>
    have present : node ∈ edges := split.mem_iff.2 List.mem_cons_self
    have fewer : (edges.erase node).Perm (ends ++ others) :=
      (List.cons_perm_iff_perm_erase.1 split.symm).2.symm
    obtain ⟨freed, left, released, remaining, distinct, free⟩ := ih fewer
    have known : node ∈ edges.erase node ↔ node ∈ ends ∨ node ∈ others :=
      fewer.mem_iff.trans List.mem_append
    by_cases again : node ∈ edges.erase node
    · refine ⟨freed, left, ?_, remaining, distinct, fun other => ?_⟩
      · rw [release, if_pos present]
        dsimp only
        rw [released, Option.map_some, if_pos again]
      · rw [free, List.mem_cons]
        constructor
        · exact And.imp_left .inr
        · rintro ⟨rfl | among, absent⟩
          · exact ⟨(known.1 again).resolve_right absent, absent⟩
          · exact ⟨among, absent⟩
    · have fresh : node ∉ ends ∧ node ∉ others := not_or.1 (mt known.2 again)
      refine ⟨node :: freed, left, ?_, remaining, ?_, fun other => ?_⟩
      · rw [release, if_pos present]
        dsimp only
        rw [released, Option.map_some, if_neg again]
      · exact List.nodup_cons.2 ⟨fun member => fresh.1 ((free node).1 member).1, distinct⟩
      · rw [List.mem_cons, free, List.mem_cons, or_and_right]
        refine or_congr_left ⟨fun same => ⟨same, same ▸ fresh.2⟩, And.left⟩

/-- The last generation. -/
theorem follow_of_last {generation edges : List Nat}
    (released : release (generation.flatMap children) edges = some ([], [])) :
    follow children generation edges = some generation := by
  rw [follow]
  split <;> simp_all

/-- A generation that frees some nodes. -/
theorem follow_of_freed {generation edges freed left : List Nat} (nonempty : freed ≠ [])
    (released : release (generation.flatMap children) edges = some (freed, left)) :
    follow children generation edges =
      (follow children freed left).map fun behind => generation ++ behind := by
  rw [follow]
  split <;> simp_all

/-- If no node becomes free, no node waits: of the nodes that wait, one at the latest place would
have lost all edges that lead to it. -/
theorem waiting_eq_nil (downward : ∀ parent, ∀ child ∈ children parent, child < parent)
    {waiting ends edges : List Nat} (starts : edges.Perm (ends ++ waiting.flatMap children))
    (held : ∀ node, node ∈ edges ↔ node ∈ waiting)
    (stuck : ∀ node ∈ ends, node ∈ waiting.flatMap children) : waiting = [] := by
  refine List.eq_nil_iff_forall_not_mem.2 fun node waits => ?_
  obtain ⟨top, member, greatest⟩ :=
    waiting.toFinset.exists_max_image id ⟨node, List.mem_toFinset.2 waits⟩
  have edge : top ∈ edges := (held top).2 (List.mem_toFinset.1 member)
  have stays : top ∈ waiting.flatMap children :=
    (List.mem_append.1 (starts.mem_iff.1 edge)).elim (stuck top) id
  obtain ⟨parent, above, leads⟩ := List.mem_flatMap.1 stays
  have notLater : parent ≤ top := greatest parent (List.mem_toFinset.2 above)
  exact Nat.not_lt_of_le notLater (downward parent top leads)

/-- Every node is listed, behind all that lead to it. Let the edges be those that start at the
nodes of a generation and at nodes that wait, and let the nodes that wait be those that edges lead
to. If edges lead to earlier places only, the listing has all these nodes, each once, and none
before one that leads to it. -/
theorem exists_follow (downward : ∀ parent, ∀ child ∈ children parent, child < parent)
    {generation waiting edges : List Nat}
    (starts : edges.Perm ((generation ++ waiting).flatMap children))
    (distinct : (generation ++ waiting).Nodup)
    (held : ∀ node, node ∈ edges ↔ node ∈ waiting) :
    ∃ order, follow children generation edges = some order ∧
      order.Perm (generation ++ waiting) ∧
      order.Pairwise fun earlier later => earlier ∉ children later := by
  obtain ⟨_, waitOnce, disjoint⟩ := List.nodup_append.1 distinct
  rw [List.flatMap_append] at starts
  obtain ⟨freed, left, released, remaining, freedOnce, free⟩ := release_of_perm starts
  have leads : ∀ parent ∈ generation ++ waiting, ∀ child ∈ children parent, child ∈ waiting := by
    intro parent member child edge
    rw [← held, starts.mem_iff, ← List.flatMap_append]
    exact List.mem_flatMap.2 ⟨parent, member, edge⟩
  have unled : ∀ earlier ∈ generation, ∀ later ∈ generation ++ waiting,
      earlier ∉ children later := fun earlier here later member edge =>
    disjoint earlier here earlier (leads later member earlier edge) rfl
  have ready : generation.Pairwise fun earlier later => earlier ∉ children later :=
    List.pairwise_of_forall_mem_list fun earlier here later there =>
      unled earlier here later (List.mem_append_left _ there)
  by_cases last : freed = []
  · have none : waiting = [] := by
      refine waiting_eq_nil downward starts held fun node leaving => ?_
      by_contra gone
      exact List.not_mem_nil (last ▸ (free node).2 ⟨leaving, gone⟩)
    rw [none] at remaining
    rw [last, remaining.eq_nil] at released
    refine ⟨generation, follow_of_last released, ?_, ready⟩
    rw [none, List.append_nil]
  · -- The freed nodes are the next generation; those that go on waiting are the others.
    have freedWaits : freed ⊆ waiting := by
      intro node member
      obtain ⟨parent, here, edge⟩ := List.mem_flatMap.1 ((free node).1 member).1
      exact leads parent (List.mem_append_left _ here) node edge
    have whole : (freed ++ waiting.diff freed).Perm waiting :=
      List.subperm_append_diff_self_of_count_le fun node _ =>
        (List.subperm_of_subset freedOnce freedWaits).count_le node
    have stillHeld : ∀ node, node ∈ left ↔ node ∈ waiting.diff freed := by
      intro node
      rw [remaining.mem_iff, waitOnce.mem_sdiff_iff, ← held, starts.mem_iff, List.mem_append, free]
      tauto
    have fewer : left.length < edges.length := by
      have counted := length_release released
      have positive := List.length_pos_of_ne_nil last
      omega
    obtain ⟨order, follows, listed, ordered⟩ := exists_follow downward
      (remaining.trans (whole.symm.flatMap_right children)) (whole.nodup_iff.2 waitOnce) stillHeld
    refine ⟨generation ++ order, ?_, (listed.trans whole).append_left generation, ?_⟩
    · rw [follow_of_freed last released, follows, Option.map_some]
    · refine List.pairwise_append.2 ⟨ready, ordered, fun earlier here later behind => ?_⟩
      exact unled earlier here later
        (List.mem_append_right _ ((listed.trans whole).mem_iff.1 behind))
termination_by edges.length

/-- The listing of the nodes of a graph whose edges lead to earlier places of its own. -/
theorem exists_list? (downward : ∀ parent, ∀ child ∈ children parent, child < parent)
    {nodes : List Nat} (distinct : nodes.Nodup)
    (closed : ∀ parent ∈ nodes, ∀ child ∈ children parent, child ∈ nodes) :
    ∃ order, list? nodes children = some order ∧ order.Perm nodes ∧
      order.Pairwise fun earlier later => earlier ∉ children later := by
  have inside : ∀ node ∈ nodes.flatMap children, node ∈ nodes := by
    intro node member
    obtain ⟨parent, here, edge⟩ := List.mem_flatMap.1 member
    exact closed parent here node edge
  have whole : ((nodes.filter fun node => decide (node ∉ nodes.flatMap children)) ++
      nodes.filter fun node => decide (node ∈ nodes.flatMap children)).Perm nodes := by
    have negated : (nodes.filter fun node => decide (node ∉ nodes.flatMap children)) =
        nodes.filter fun node => !decide (node ∈ nodes.flatMap children) :=
      List.filter_congr fun node _ => decide_not
    rw [negated]
    exact List.perm_append_comm.trans (List.filter_append_perm _ nodes)
  obtain ⟨order, follows, listed, ordered⟩ := exists_follow downward
    (whole.symm.flatMap_right children) (whole.nodup_iff.2 distinct) fun node => by
      rw [List.mem_filter, decide_eq_true_iff]
      exact ⟨fun edge => ⟨inside node edge, edge⟩, And.right⟩
  exact ⟨order, follows, listed.trans whole, ordered⟩

end Generations

namespace Dag

variable (dag : Dag)

/-- An expression contains its operands, their operands, and so on. -/
def Contains : Nat → Nat → Prop := Relation.TransGen dag.Refers

/-- How often an expression is an operand, over all expressions that can be reached and all their
positions. -/
noncomputable def occurrences (root place : Nat) : Nat :=
  ∑ᶠ (parent : Nat) (_ : dag.Reaches root parent), (dag.operands parent).count place

variable {dag}

/-- What can be reached from an expression has no later place. -/
theorem le_of_reaches {root place : Nat} (reaches : dag.Reaches root place) : place ≤ root := by
  induction reaches with
  | refl => exact Nat.le_refl root
  | @tail parent child _ operand ih =>
    exact Nat.le_trans (Nat.le_of_lt (dag.operands_lt parent child operand)) ih

variable (dag) (root : Nat)

/-- The graph refers to an expression as often as it is an operand. -/
theorem references_eq_occurrences (place : Nat) :
    (dag.graph root).references place = dag.occurrences root place := by
  have reachable : {parent | dag.Reaches root parent} = ↑(dag.nodes root).toFinset := by
    ext parent
    exact (mem_nodes_iff dag root parent).symm.trans List.mem_toFinset.symm
  show _ = ∑ᶠ parent ∈ {parent | dag.Reaches root parent}, (dag.operands parent).count place
  rw [references_graph, total_eq_sum, reachable, finsum_mem_coe_finset,
    List.sum_toFinset _ (nodup_nodes dag root)]

/-- The root is no operand of what can be reached from it. -/
theorem occurrences_root : dag.occurrences root root = 0 :=
  finsum_mem_eq_zero_of_forall_eq_zero fun parent reached =>
    List.count_eq_zero_of_not_mem fun operand =>
      Nat.not_lt_of_le (le_of_reaches reached) (dag.operands_lt parent root operand)

/-- The graph of an expression has a topological order: each node once, and every node in front of
all that it contains. -/
theorem exists_topological? :
    ∃ order, (dag.graph root).topological? = some order ∧ order.Nodup ∧
      (∀ place, place ∈ order ↔ dag.Reaches root place) ∧
      ∀ outer inner, dag.Reaches root outer → dag.Contains outer inner →
        order.idxOf outer < order.idxOf inner := by
  have leads : ∀ parent child, child ∈ (dag.graph root).children parent ↔
      dag.Reaches root parent ∧ dag.Refers parent child := by
    intro parent child
    rw [← exists_edge_iff, ExpressionGraph.children, List.mem_map]
    simp only [List.mem_filter, beq_iff_eq, and_assoc]
    rfl
  have downward : ∀ parent, ∀ child ∈ (dag.graph root).children parent, child < parent :=
    fun parent child edge => dag.operands_lt parent child ((leads parent child).1 edge).2
  have closed : ∀ parent ∈ dag.nodes root, ∀ child ∈ (dag.graph root).children parent,
      child ∈ dag.nodes root := by
    intro parent _ child edge
    obtain ⟨reached, operand⟩ := (leads parent child).1 edge
    exact (mem_nodes_iff dag root child).2 (reached.tail operand)
  obtain ⟨order, sorted, listed, ordered⟩ :=
    Generations.exists_list? downward (nodup_nodes dag root) closed
  have members : ∀ place, place ∈ order ↔ dag.Reaches root place :=
    fun place => listed.mem_iff.trans (mem_nodes_iff dag root place)
  have direct : ∀ parent child, dag.Reaches root parent → dag.Refers parent child →
      order.idxOf parent < order.idxOf child := by
    intro parent child reached operand
    refine idxOf_lt_of_pairwise ordered ((members parent).2 reached)
      ((members child).2 (reached.tail operand)) ?_ ?_
    · exact Nat.ne_of_gt (dag.operands_lt parent child operand)
    · exact not_not_intro ((leads parent child).2 ⟨reached, operand⟩)
  refine ⟨order, sorted, listed.nodup_iff.2 (nodup_nodes dag root), members,
    fun outer inner reached contains => ?_⟩
  induction contains with
  | single operand => exact direct outer _ reached operand
  | @tail between inner within operand ih =>
    have onward : dag.Reaches root between :=
      Relation.ReflTransGen.trans reached within.to_reflTransGen
    exact Nat.lt_trans ih (direct between inner onward operand)

/-- Shared expressions are listed completely, once each, and from the outside in. For every
expression there is a topological order of its graph, so shared expressions are found. They are
exactly the expressions that can be reached and are operands at two or more positions in total,
counted over all different expressions that can be reached. None is listed twice, the root is not
among them, and if one contains another it comes earlier in the list. -/
theorem shared_exact :
    dag.shared? root = some (dag.shared root) ∧
    (dag.shared root).Nodup ∧
    (∀ place, place ∈ dag.shared root ↔
      dag.Reaches root place ∧ 2 ≤ dag.occurrences root place) ∧
    root ∉ dag.shared root ∧
    ∀ outer ∈ dag.shared root, ∀ inner ∈ dag.shared root, dag.Contains outer inner →
      (dag.shared root).idxOf outer < (dag.shared root).idxOf inner := by
  obtain ⟨order, sorted, distinct, members, outsideIn⟩ := exists_topological? dag root
  have found : dag.shared? root =
      some (order.filter fun place => 1 < (dag.graph root).references place) := by
    rw [shared?, sorted, Option.map_some]
  have listed : dag.shared root =
      order.filter fun place => 1 < (dag.graph root).references place := by
    rw [shared, found, Option.getD_some]
  have mem_shared_iff : ∀ place, place ∈ dag.shared root ↔
      dag.Reaches root place ∧ 2 ≤ dag.occurrences root place := by
    intro place
    rw [listed, List.mem_filter, members, decide_eq_true_iff, references_eq_occurrences]
    rfl
  refine ⟨found.trans (congrArg some listed.symm), ?_, mem_shared_iff, fun member => ?_,
    fun outer first inner second contains => ?_⟩
  · rw [listed]
    exact distinct.filter _
  · have several := ((mem_shared_iff root).1 member).2
    rw [occurrences_root] at several
    omega
  · have before := outsideIn outer inner ((mem_shared_iff outer).1 first).1 contains
    rw [listed] at first second ⊢
    exact idxOf_filter_lt _ distinct first second before

/-- The constant `0` has one edge from each of its two operators, but three positions. -/
example :
    let pair := Dag.constants.add (.join 0 1) (by decide)
    let whole := pair.add (.union [2, 0, 2, 0]) (by decide)
    whole.shared 3 = [2, 0] ∧ (whole.graph 3).references 0 = 3 := by
  decide +kernel

end Dag

end GraphPattern
