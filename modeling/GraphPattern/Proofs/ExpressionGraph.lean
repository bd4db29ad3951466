import GraphPattern.Proofs.Exploration

/-!
# What the graph of an expression says

Once an expression is explored, its graph can be read without looking at how it
came about: its nodes are the expressions that can be reached, and its edges are
those of their operators, node by node. What is counted on the graph (the
positions on the edges of one operator, the positions at which one operand is
referred to, the expressions of every kind) is then counted on the expressions
themselves.

Main statement: the exploration ends, and its graph is exact.
-/

namespace GraphPattern

namespace Entries

/-- Writing a value trades it for the one that was there. -/
theorem sum_put (counts : Entries Nat) (key : String) (count : Nat) :
    total ((counts.put key count).map Prod.snd) + (counts.get? key).getD 0 =
      total (counts.map Prod.snd) + count := by
  induction counts with
  | nil => simp [put, get?]
  | cons entry rest ih =>
    obtain ⟨name, old⟩ := entry
    by_cases same : name = key
    · simp only [put, get?, if_pos same, List.map_cons, total_cons, Option.getD_some]
      omega
    · simp only [put, get?, if_neg same, List.map_cons, total_cons]
      omega

end Entries

namespace Dag

/-- Counting names one after the other adds up to how many there are. -/
theorem sum_foldl_count (kinds : List String) (counts : Entries Nat) :
    total ((kinds.foldl (fun counts kind => counts.put kind ((counts.get? kind).getD 0 + 1))
        counts).map Prod.snd) = total (counts.map Prod.snd) + kinds.length := by
  induction kinds generalizing counts with
  | nil => rfl
  | cons kind rest ih =>
    have traded := Entries.sum_put counts kind ((counts.get? kind).getD 0 + 1)
    rw [List.foldl_cons, ih, List.length_cons]
    omega

/-- Counting names one after the other counts every name as often as it stands there. -/
theorem get?_foldl_count (kinds : List String) (counts : Entries Nat) (kind : String) :
    ((kinds.foldl (fun counts kind => counts.put kind ((counts.get? kind).getD 0 + 1))
        counts).get? kind).getD 0 = (counts.get? kind).getD 0 + kinds.count kind := by
  induction kinds generalizing counts with
  | nil => rfl
  | cons first rest ih =>
    rw [List.foldl_cons, ih, Entries.get?_put, List.count_cons]
    by_cases same : first = kind
    · subst same
      simp only [if_pos, Option.getD_some, beq_self_eq_true]
      omega
    · simp only [if_neg same, beq_false_of_ne same, Bool.false_eq_true, if_false, Nat.add_zero]

variable (dag : Dag) (root : Nat)

/-- The edges of the graph are those of the operators that can be reached, node by node. -/
theorem edges_eq_flatMap :
    dag.edges root =
      (dag.nodes root).flatMap fun place => Edge.ofOperands place (dag.operands place) := by
  rw [edges, ExpressionGraph.edges, vertices_graph, List.flatMap_map]
  rfl

/-- No place stands twice among the nodes. -/
theorem nodup_nodes : (dag.nodes root).Nodup := (explores_graph dag root).distinct

/-- The nodes are the places that can be reached. -/
theorem mem_nodes_iff (place : Nat) : place ∈ dag.nodes root ↔ dag.Reaches root place :=
  mem_places_graph_iff dag root place

/-- What the edges of the graph are. -/
theorem mem_edges_iff (edge : Edge) :
    edge ∈ dag.edges root ↔
      dag.Reaches root edge.parent ∧ edge.child ∈ dag.operands edge.parent ∧
        edge.position = (dag.operands edge.parent).idxOf edge.child ∧
        edge.positions = (dag.operands edge.parent).idxsOf edge.child := by
  rw [edges_eq_flatMap, List.mem_flatMap]
  constructor
  · rintro ⟨place, reached, among⟩
    obtain ⟨rfl, operand⟩ := (Edge.mem_ofOperands_iff edge).1 among
    exact ⟨(mem_nodes_iff dag root _).1 reached, operand⟩
  · rintro ⟨reached, operand⟩
    exact ⟨edge.parent, (mem_nodes_iff dag root _).2 reached,
      (Edge.mem_ofOperands_iff edge).2 ⟨rfl, operand⟩⟩

/-- The edges of one operator are those of its operands. -/
theorem filter_parent_edges {place : Nat} (reached : dag.Reaches root place) :
    (dag.edges root).filter (fun edge => edge.parent == place) =
      Edge.ofOperands place (dag.operands place) := by
  have own : ∀ other : Nat,
      (Edge.ofOperands other (dag.operands other)).filter (fun edge => edge.parent == place) =
        if other = place then Edge.ofOperands place (dag.operands place) else [] := by
    intro other
    split
    · next same =>
      rw [same, List.filter_eq_self]
      intro edge member
      exact beq_iff_eq.2 ((Edge.mem_ofOperands_iff edge).1 member).1
    · next different =>
      rw [List.filter_eq_nil_iff]
      intro edge member
      rw [beq_iff_eq, ((Edge.mem_ofOperands_iff edge).1 member).1]
      exact different
  have nothing : ∀ others : List Nat, place ∉ others →
      (others.flatMap fun other =>
        if other = place then Edge.ofOperands place (dag.operands place) else []) = [] := by
    intro others absent
    rw [List.flatMap_eq_nil_iff]
    intro other member
    have different : ¬ other = place := fun same => absent (same ▸ member)
    rw [if_neg different]
  have distinct := nodup_nodes dag root
  rw [edges_eq_flatMap, List.filter_flatMap]
  simp only [own]
  obtain ⟨front, back, split⟩ := List.append_of_mem ((mem_nodes_iff dag root place).2 reached)
  rw [split, List.nodup_append, List.nodup_cons] at distinct
  have before : place ∉ front :=
    fun member => distinct.2.2 place member place List.mem_cons_self rfl
  rw [split, List.flatMap_append, List.flatMap_cons, nothing front before,
    nothing back distinct.2.1.1, if_pos rfl, List.nil_append, List.append_nil]

/-- There is an edge exactly from every operator that can be reached to each of its operands. -/
theorem exists_edge_iff (parent child : Nat) :
    (∃ edge ∈ dag.edges root, edge.parent = parent ∧ edge.child = child) ↔
      dag.Reaches root parent ∧ dag.Refers parent child := by
  constructor
  · rintro ⟨edge, member, rfl, rfl⟩
    obtain ⟨reached, operand, _⟩ := (mem_edges_iff dag root edge).1 member
    exact ⟨reached, operand⟩
  · rintro ⟨reached, operand⟩
    let edge : Edge := ⟨parent, child, (dag.operands parent).idxOf child,
      (dag.operands parent).idxsOf child⟩
    exact ⟨edge, (mem_edges_iff dag root edge).2 ⟨reached, operand, rfl, rfl⟩, rfl, rfl⟩

/-- Every node bears the word for the operator at its place. -/
theorem nodeKinds_eq_map : dag.nodeKinds root = (dag.nodes root).map dag.kind := by
  rw [nodeKinds, vertices_graph, List.map_map]
  rfl

/-- There is at most one edge between two places. -/
theorem nodup_ends_edges :
    ((dag.edges root).map fun edge => (edge.parent, edge.child)).Nodup := by
  rw [edges_eq_flatMap, List.map_flatMap, List.nodup_flatMap]
  constructor
  · intro place _
    rw [Edge.ofOperands, List.map_map]
    refine (nodup_eraseDups (dag.operands place)).map fun child other same => ?_
    exact congrArg Prod.snd same
  · refine (nodup_nodes dag root).imp fun {place other} different => ?_
    rintro ⟨parent, child⟩ one two
    obtain ⟨edge, among, ends⟩ := List.mem_map.1 one
    obtain ⟨second, amongOthers, sameEnds⟩ := List.mem_map.1 two
    refine different ?_
    rw [← ((Edge.mem_ofOperands_iff edge).1 among).1,
      ← ((Edge.mem_ofOperands_iff second).1 amongOthers).1]
    exact congrArg Prod.fst (ends.trans sameEnds.symm)

/-- References to a place are counted over all operators that can be reached. -/
theorem references_graph (place : Nat) :
    (dag.graph root).references place =
      total ((dag.nodes root).map fun parent => (dag.operands parent).count place) := by
  show total (((dag.edges root).filter fun edge => edge.child == place).map
    fun edge => edge.positions.length) = _
  rw [edges_eq_flatMap]
  induction dag.nodes root with
  | nil => rfl
  | cons parent rest ih =>
    rw [List.flatMap_cons, List.filter_append, List.map_append, total_append, ih,
      Edge.sum_positions_ofOperands_to, List.map_cons, total_cons]

/-- The graph of an expression is exact. Exploring an expression ends: after some number of
steps nothing is left to look at, however often expressions were put on the stack. The graph then
has one node for each expression that can be reached from the root and no other, each with the word
for its operator, and the root comes first. It has at most one edge between two expressions, and
has one exactly if the first can be reached and the second is an operand of it. On an edge are all
positions at which the operator has the operand, in increasing order, and the first of them by
itself. So the positions on the edges of an operator are as many as its operands, and counting
expressions by kind counts each of them once. -/
theorem graph_exact :
    (∃ steps, dag.step^[steps] (.start root) = ⟨dag.graph root, []⟩) ∧
    (dag.graph root).root = root ∧
    (dag.nodes root).head? = some root ∧
    (dag.nodes root).Nodup ∧
    (∀ place, place ∈ dag.nodes root ↔ dag.Reaches root place) ∧
    dag.nodeKinds root = (dag.nodes root).map dag.kind ∧
    ((dag.edges root).map fun edge => (edge.parent, edge.child)).Nodup ∧
    (∀ parent child,
      (∃ edge ∈ dag.edges root, edge.parent = parent ∧ edge.child = child) ↔
        dag.Reaches root parent ∧ child ∈ dag.operands parent) ∧
    (∀ edge ∈ dag.edges root,
      edge.positions.Pairwise (· < ·) ∧
      (∀ position, position ∈ edge.positions ↔
        (dag.operands edge.parent)[position]? = some edge.child) ∧
      edge.positions.head? = some edge.position) ∧
    (∀ parent, dag.Reaches root parent →
      total (((dag.edges root).filter fun edge => edge.parent == parent).map
        fun edge => edge.positions.length) = (dag.operands parent).length) ∧
    (∀ kind, ((dag.kindCounts root).get? kind).getD 0 = (dag.nodeKinds root).count kind) ∧
    total ((dag.kindCounts root).map Prod.snd) = dag.expressionCount root := by
  refine ⟨exists_iterate_step dag _, (explores_graph dag root).root_eq,
    head?_places_graph dag root, nodup_nodes dag root, mem_nodes_iff dag root,
    nodeKinds_eq_map dag root, nodup_ends_edges dag root, exists_edge_iff dag root,
    fun edge member => ?_, fun parent reached => ?_, fun kind => ?_, ?_⟩
  · obtain ⟨_, operand, first, all⟩ := (mem_edges_iff dag root edge).1 member
    rw [first, all]
    refine ⟨List.pairwise_idxsOf, fun position => mem_idxsOf_iff _ _ _, ?_⟩
    rw [head?_idxsOf 0 operand, Nat.zero_add]
  · rw [filter_parent_edges dag root reached, Edge.sum_positions_ofOperands]
  · exact (get?_foldl_count (dag.nodeKinds root) [] kind).trans (Nat.zero_add _)
  · rw [kindCounts, sum_foldl_count, expressionCount, nodeKinds, List.length_map]
    exact Nat.zero_add _

end Dag

end GraphPattern
