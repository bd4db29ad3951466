import GraphPattern.Expression.Dag
import GraphPattern.Expression.Generations

/-!
# The graph of an expression

An expression is viewed as a graph: one node for every distinct expression that
can be reached, and an edge from every operator to each of its operands, which
carries the positions of that operand.

The graph is explored with a stack. An expression that is taken off the stack is
visited, unless that has been done before: its operands get nodes if they have
none, its edges get their positions, and all operands are put on the stack, the
last one on top. So an expression can be on the stack many times, and its node
can be there long before it is visited.

An expression is shared when it is an operand at two or more positions. Shared
expressions are listed in topological order.
-/

namespace GraphPattern

/-- The sum of numbers. -/
def total (numbers : List Nat) : Nat := numbers.foldr (· + ·) 0

@[simp] theorem total_nil : total [] = 0 := rfl

@[simp] theorem total_cons (number : Nat) (rest : List Nat) :
    total (number :: rest) = number + total rest := rfl

/-- Numbers in two lists add up list by list. -/
theorem total_append (front back : List Nat) :
    total (front ++ back) = total front + total back := by
  induction front with
  | nil => rw [List.nil_append, total_nil, Nat.zero_add]
  | cons number rest ih => rw [List.cons_append, total_cons, total_cons, ih, Nat.add_assoc]

/-- The order of numbers does not matter for their sum. -/
theorem total_reverse (numbers : List Nat) : total numbers.reverse = total numbers := by
  induction numbers with
  | nil => rfl
  | cons number rest ih =>
    rw [List.reverse_cons, total_append, ih, total_cons, total_cons, total_nil, Nat.add_zero,
      Nat.add_comm]

/-- An edge of an expression graph. -/
structure Edge where
  /-- The operator. -/
  parent : Nat
  /-- The operand. -/
  child : Nat
  /-- The position at which the operand was met first. -/
  position : Nat
  /-- All positions at which the operand was met, in the order in which it was. -/
  positions : List Nat

/-- The edges of an operator after one more of its positions: an operand that has an edge gets the
position on it, any other gets an edge behind the others. -/
def Edge.addPosition (parent child position : Nat) : List Edge → List Edge
  | [] => [⟨parent, child, position, [position]⟩]
  | edge :: rest =>
    if edge.child = child then { edge with positions := edge.positions ++ [position] } :: rest
    else edge :: addPosition parent child position rest

/-- A node of an expression graph. -/
structure Vertex where
  /-- The place of the expression. -/
  place : Nat
  /-- The word for its operator. -/
  kind : String
  /-- Whether the expression has been visited. -/
  visited : Bool
  /-- The edges to its operands. -/
  edges : List Edge

namespace Vertex

/-- The node when its expression is visited. -/
def visit (vertex : Vertex) (kind : String) : Vertex :=
  { vertex with kind := kind, visited := true }

/-- The node after one more position of an operand. -/
def link (vertex : Vertex) (child position : Nat) : Vertex :=
  { vertex with edges := Edge.addPosition vertex.place child position vertex.edges }

end Vertex

/-- The graph of an expression, as far as it is known. -/
structure ExpressionGraph where
  /-- The place of the whole expression. -/
  root : Nat
  /-- The nodes, in the order in which they were found. -/
  vertices : List Vertex

namespace ExpressionGraph

/-- The places that have a node, in order. -/
def places (graph : ExpressionGraph) : List Nat := graph.vertices.map Vertex.place

/-- The edges, those of one node after those of the other. -/
def edges (graph : ExpressionGraph) : List Edge := graph.vertices.flatMap Vertex.edges

/-- Whether the node of a place has been visited. -/
def isVisited (graph : ExpressionGraph) (place : Nat) : Bool :=
  graph.vertices.any fun vertex => vertex.place == place && vertex.visited

/-- Gives a place a node behind the others, unless it has one. -/
def ensure (graph : ExpressionGraph) (place : Nat) (kind : String) : ExpressionGraph :=
  if place ∈ graph.places then graph
  else { graph with vertices := graph.vertices ++ [⟨place, kind, false, []⟩] }

/-- Changes the node of a place. -/
def change (graph : ExpressionGraph) (place : Nat) (changed : Vertex → Vertex) :
    ExpressionGraph :=
  { graph with
    vertices := graph.vertices.map fun vertex =>
      if vertex.place = place then changed vertex else vertex }

/-- Visits a place. -/
def visit (graph : ExpressionGraph) (place : Nat) (kind : String) : ExpressionGraph :=
  (graph.ensure place kind).change place fun vertex => vertex.visit kind

/-- Notes a position at which an operator has an operand. -/
def link (graph : ExpressionGraph) (parent child position : Nat) : ExpressionGraph :=
  graph.change parent fun vertex => vertex.link child position

/-- The number of positions at which the operators of a graph have an operand. -/
def references (graph : ExpressionGraph) (place : Nat) : Nat :=
  total ((graph.edges.filter fun edge => edge.child == place).map fun edge =>
    edge.positions.length)

/-- The operands of a place, one for every edge. -/
def children (graph : ExpressionGraph) (place : Nat) : List Nat :=
  (graph.edges.filter fun edge => edge.parent == place).map Edge.child

/-- The nodes in topological order, each behind all that refer to it, if there is such an order. -/
def topological? (graph : ExpressionGraph) : Option (List Nat) :=
  Generations.list? graph.places graph.children

end ExpressionGraph

/-- A graph together with the places that are still to be looked at. -/
structure Exploration where
  /-- What is known of the graph. -/
  graph : ExpressionGraph
  /-- The places to look at, the next one first. -/
  stack : List Nat

/-- Nothing but the place of the whole expression. -/
def Exploration.start (root : Nat) : Exploration := ⟨⟨root, []⟩, [root]⟩

namespace Dag

/-- The operands of a place. -/
def operands (dag : Dag) (place : Nat) : List Nat := (dag.operator place).operands

/-- The word for the operator at a place. -/
def kind (dag : Dag) (place : Nat) : String := (dag.operator place).kind

/-- Notes an operand with its position and puts it on the stack. -/
def meet (dag : Dag) (parent : Nat) (exploration : Exploration) (operand : Nat × Nat) :
    Exploration where
  graph := (exploration.graph.ensure operand.1 (dag.kind operand.1)).link parent operand.1 operand.2
  stack := operand.1 :: exploration.stack

/-- Takes a place off the stack and visits it, unless it has been visited. -/
def step (dag : Dag) (exploration : Exploration) : Exploration :=
  match exploration.stack with
  | [] => exploration
  | place :: rest =>
    if exploration.graph.isVisited place then { exploration with stack := rest }
    else
      (dag.operands place).zipIdx.foldl (dag.meet place)
        ⟨exploration.graph.visit place (dag.kind place), rest⟩

/-- A place that has been visited is passed over. -/
theorem step_of_visited (dag : Dag) {graph : ExpressionGraph} {place : Nat} {rest : List Nat}
    (seen : graph.isVisited place = true) :
    dag.step ⟨graph, place :: rest⟩ = ⟨graph, rest⟩ :=
  if_pos seen

/-- Any other place is visited and its operands are met in order. -/
theorem step_of_unvisited (dag : Dag) {graph : ExpressionGraph} {place : Nat} {rest : List Nat}
    (new : ¬ graph.isVisited place = true) :
    dag.step ⟨graph, place :: rest⟩ =
      (dag.operands place).zipIdx.foldl (dag.meet place)
        ⟨graph.visit place (dag.kind place), rest⟩ :=
  if_neg new

/-- How many places there are to look at below a place, counted once for each way that leads to
them. -/
def weight (dag : Dag) (place : Nat) : Nat :=
  1 + total ((dag.operands place).attach.map fun operand => dag.weight operand.1)
termination_by place
decreasing_by exact dag.operands_lt place operand.1 operand.2

/-- Meeting operands puts them on the stack, the last one on top. -/
theorem stack_foldl_meet (dag : Dag) (parent start : Nat) (operands : List Nat)
    (exploration : Exploration) :
    ((operands.zipIdx start).foldl (dag.meet parent) exploration).stack =
      operands.reverse ++ exploration.stack := by
  induction operands generalizing start exploration with
  | nil => rfl
  | cons operand rest ih =>
    rw [List.zipIdx_cons, List.foldl_cons, ih, List.reverse_cons, List.append_assoc]
    rfl

/-- A step takes weight off the stack. -/
theorem weight_step_lt (dag : Dag) (exploration : Exploration)
    (pending : exploration.stack ≠ []) :
    total ((dag.step exploration).stack.map dag.weight) <
      total (exploration.stack.map dag.weight) := by
  obtain ⟨graph, stack⟩ := exploration
  cases stack with
  | nil => exact absurd rfl pending
  | cons place rest =>
    have whole : dag.weight place = 1 + total ((dag.operands place).map dag.weight) := by
      rw [weight, List.attach_map_val]
    rw [List.map_cons, total_cons, whole]
    by_cases seen : graph.isVisited place = true
    · have after : (dag.step ⟨graph, place :: rest⟩).stack = rest := by
        rw [step_of_visited dag seen]
      rw [after]
      omega
    · have after : (dag.step ⟨graph, place :: rest⟩).stack =
          (dag.operands place).reverse ++ rest := by
        rw [step_of_unvisited dag seen, stack_foldl_meet]
      rw [after, List.map_append, List.map_reverse, total_append, total_reverse]
      omega

/-- Takes steps until nothing is left to look at. -/
def explore (dag : Dag) (exploration : Exploration) : ExpressionGraph :=
  if _done : exploration.stack = [] then exploration.graph
  else dag.explore (dag.step exploration)
termination_by total (exploration.stack.map dag.weight)
decreasing_by exact dag.weight_step_lt exploration _done

/-- The graph of the expression at a place. -/
def graph (dag : Dag) (root : Nat) : ExpressionGraph := dag.explore (.start root)

/-- The places that can be reached from a root, in the order in which they are found. -/
def nodes (dag : Dag) (root : Nat) : List Nat := (dag.graph root).places

/-- The edges between the places that can be reached, in the order of their parents. -/
def edges (dag : Dag) (root : Nat) : List Edge := (dag.graph root).edges

/-- The number of distinct expressions that can be reached. -/
def expressionCount (dag : Dag) (root : Nat) : Nat := (dag.graph root).vertices.length

/-- The kinds of the places that can be reached, in order. -/
def nodeKinds (dag : Dag) (root : Nat) : List String :=
  (dag.graph root).vertices.map Vertex.kind

/-- How many distinct expressions there are of every kind, in the order of first appearance. -/
def kindCounts (dag : Dag) (root : Nat) : Entries Nat :=
  (dag.nodeKinds root).foldl
    (fun counts kind => counts.put kind ((counts.get? kind).getD 0 + 1)) []

/-- The expressions that are operands at two or more positions, in topological order, if there is
such an order. -/
def shared? (dag : Dag) (root : Nat) : Option (List Nat) :=
  let graph := dag.graph root
  graph.topological?.map fun order => order.filter fun place => 1 < graph.references place

/-- The shared expressions that are found. -/
def shared (dag : Dag) (root : Nat) : List Nat := (dag.shared? root).getD []

end Dag

end GraphPattern
