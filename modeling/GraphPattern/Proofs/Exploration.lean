import GraphPattern.Proofs.Positions
import Mathlib.Logic.Relation

/-!
# Exploring an expression

An exploration keeps a stack on which one expression can lie many times, gives
nodes to expressions before it visits them, and adds positions to edges one by
one. This module states what a step does to the graph as a whole: visiting a
place gives it and its operands nodes, where they have none, and completes the
node of the place with all its edges at once. From it follows an invariant of
all steps, and with it what the graph is in the end.

Main statement: in the end the places with nodes are those that can be reached,
the root first, and each has the one node with all its edges.
-/

namespace GraphPattern

namespace ExpressionGraph

variable {graph : ExpressionGraph}

/-- A change to the node of a place that leaves it the node of this place. -/
def Stays (place : Nat) (changed : Vertex → Vertex) : Prop :=
  ∀ vertex : Vertex, vertex.place = place → (changed vertex).place = place

/-- Changing a node leaves all places where they are. -/
theorem places_change {place : Nat} {changed : Vertex → Vertex} (stays : Stays place changed) :
    (graph.change place changed).places = graph.places := by
  rw [places, change, List.map_map, places]
  refine List.map_congr_left fun vertex _ => ?_
  rw [Function.comp_apply]
  split
  · next here => exact (stays vertex here).trans here.symm
  · rfl

/-- The nodes after a change are the others and the changed one. -/
theorem mem_vertices_change {place : Nat} {changed : Vertex → Vertex} {vertex : Vertex}
    (member : vertex ∈ (graph.change place changed).vertices) :
    vertex ∈ graph.vertices ∧ vertex.place ≠ place ∨
      ∃ before ∈ graph.vertices, before.place = place ∧ vertex = changed before := by
  obtain ⟨before, present, same⟩ := List.mem_map.1 member
  by_cases here : before.place = place
  · rw [if_pos here] at same
    exact .inr ⟨before, present, here, same.symm⟩
  · rw [if_neg here] at same
    exact .inl ⟨same ▸ present, same ▸ here⟩

/-- Changing a node twice changes it by both changes. -/
theorem change_change {place : Nat} {first second : Vertex → Vertex}
    (stays : Stays place first) :
    (graph.change place first).change place second =
      graph.change place fun vertex => second (first vertex) := by
  rw [change, change, change, List.map_map]
  congr 1
  refine List.map_congr_left fun vertex _ => ?_
  rw [Function.comp_apply]
  by_cases here : vertex.place = place
  · rw [if_pos here, if_pos (stays vertex here), if_pos here]
  · rw [if_neg here, if_neg here, if_neg here]

/-- Only what a change does to the node of the place matters. -/
theorem change_congr {place : Nat} {first second : Vertex → Vertex}
    (same : ∀ vertex ∈ graph.vertices, vertex.place = place → first vertex = second vertex) :
    graph.change place first = graph.change place second := by
  rw [change, change]
  congr 1
  refine List.map_congr_left fun vertex member => ?_
  by_cases here : vertex.place = place
  · rw [if_pos here, if_pos here, same vertex member here]
  · rw [if_neg here, if_neg here]

/-- Giving a place a node and changing the node of another can be done in either order. -/
theorem ensure_change {place other : Nat} {kind : String} {changed : Vertex → Vertex}
    (stays : Stays place changed) (known : place ∈ graph.places) :
    (graph.change place changed).ensure other kind =
      (graph.ensure other kind).change place changed := by
  rw [ensure, places_change stays, ensure]
  by_cases present : other ∈ graph.places
  · rw [if_pos present, if_pos present]
  · have different : ¬ other = place := fun same => present (same ▸ known)
    rw [if_neg present, if_neg present, change, change, List.map_append, List.map_singleton,
      if_neg different]

/-- Gives places nodes, one after the other. -/
def ensureAll (graph : ExpressionGraph) (kind : Nat → String) (places : List Nat) :
    ExpressionGraph :=
  places.foldl (fun graph place => graph.ensure place (kind place)) graph

/-- The places after one more has got a node. -/
theorem places_ensure (place : Nat) (kind : String) :
    (graph.ensure place kind).places =
      if place ∈ graph.places then graph.places else graph.places ++ [place] := by
  rw [ensure]
  split
  · rfl
  · rw [places, List.map_append]
    rfl

variable (graph) (kind : Nat → String) (places : List Nat)

/-- Giving nodes keeps the root. -/
theorem root_ensureAll : (graph.ensureAll kind places).root = graph.root := by
  induction places generalizing graph with
  | nil => rfl
  | cons place rest ih =>
    refine (ih (graph.ensure place (kind place))).trans ?_
    rw [ensure]
    split <;> rfl

/-- The places that had nodes come first. -/
theorem prefix_places_ensureAll : graph.places <+: (graph.ensureAll kind places).places := by
  induction places generalizing graph with
  | nil => exact List.prefix_rfl
  | cons place rest ih =>
    refine List.IsPrefix.trans ?_ (ih (graph.ensure place (kind place)))
    rw [places_ensure]
    split
    · exact List.prefix_rfl
    · exact List.prefix_append _ _

/-- The places that have nodes afterwards are those that had some and those that were given
some. -/
theorem mem_places_ensureAll_iff (place : Nat) :
    place ∈ (graph.ensureAll kind places).places ↔ place ∈ graph.places ∨ place ∈ places := by
  induction places generalizing graph with
  | nil => simp [ensureAll]
  | cons first rest ih =>
    refine (ih (graph.ensure first (kind first))).trans ?_
    rw [places_ensure, List.mem_cons]
    split
    · next present =>
      exact ⟨Or.imp_right .inr, fun either => either.elim .inl fun among =>
        among.elim (fun same => .inl (same ▸ present)) .inr⟩
    · rw [List.mem_append, List.mem_singleton, or_assoc]

/-- No place gets a second node. -/
theorem nodup_places_ensureAll (distinct : graph.places.Nodup) :
    (graph.ensureAll kind places).places.Nodup := by
  induction places generalizing graph with
  | nil => exact distinct
  | cons place rest ih =>
    refine ih (graph.ensure place (kind place)) ?_
    rw [places_ensure]
    split
    · exact distinct
    · next absent => exact List.concat_eq_append ▸ distinct.concat absent

/-- The nodes afterwards are those that were there and new ones of the given places. -/
theorem mem_vertices_ensureAll {vertex : Vertex}
    (member : vertex ∈ (graph.ensureAll kind places).vertices) :
    vertex ∈ graph.vertices ∨
      vertex.place ∈ places ∧ vertex = ⟨vertex.place, kind vertex.place, false, []⟩ := by
  induction places generalizing graph with
  | nil => exact .inl member
  | cons place rest ih =>
    obtain before | ⟨among, new⟩ := ih (graph.ensure place (kind place)) member
    · rw [ensure] at before
      split at before
      · exact .inl before
      · obtain old | new := List.mem_append.1 before
        · exact .inl old
        · rw [List.mem_singleton.1 new]
          exact .inr ⟨List.mem_cons_self, rfl⟩
    · exact .inr ⟨List.mem_cons_of_mem _ among, new⟩

/-- Giving places nodes and changing the node of another can be done in either order. -/
theorem ensureAll_change {place : Nat} {changed : Vertex → Vertex}
    (stays : Stays place changed) (known : place ∈ graph.places) :
    (graph.change place changed).ensureAll kind places =
      (graph.ensureAll kind places).change place changed := by
  induction places generalizing graph with
  | nil => rfl
  | cons other rest ih =>
    have still : place ∈ (graph.ensure other (kind other)).places :=
      (prefix_places_ensureAll graph kind [other]).subset known
    show ((graph.change place changed).ensure other (kind other)).ensureAll kind rest = _
    rw [ensure_change stays known, ih _ still]
    rfl

end ExpressionGraph

namespace Dag

variable (dag : Dag)

/-- An expression refers to its operands. -/
def Refers (parent child : Nat) : Prop := child ∈ dag.operands parent

/-- What can be reached from an expression: itself, its operands, their operands, and so on. -/
def Reaches : Nat → Nat → Prop := Relation.ReflTransGen dag.Refers

/-- The node of a place that has not been visited. -/
def fresh (place : Nat) : Vertex := ⟨place, dag.kind place, false, []⟩

/-- The node of a place that has been visited. -/
def complete (place : Nat) : Vertex :=
  ⟨place, dag.kind place, true, Edge.ofOperands place (dag.operands place)⟩

/-- A graph after a place has been visited: the place and its operands have nodes, and the node of
the place is complete. -/
def visited (graph : ExpressionGraph) (place : Nat) : ExpressionGraph :=
  (graph.ensureAll dag.kind (place :: dag.operands place)).change place fun _ => dag.complete place

variable {dag}

/-- Visiting a place leaves the other nodes as they are and adds fresh ones of operands. -/
theorem mem_vertices_visited {graph : ExpressionGraph} {place : Nat} {vertex : Vertex}
    (member : vertex ∈ (dag.visited graph place).vertices) :
    vertex = dag.complete place ∨
      vertex.place ∈ dag.operands place ∧ vertex = dag.fresh vertex.place ∨
      vertex ∈ graph.vertices ∧ vertex.place ≠ place := by
  obtain ⟨present, elsewhere⟩ | ⟨_, _, _, same⟩ := ExpressionGraph.mem_vertices_change member
  · obtain old | ⟨among, fresh⟩ := ExpressionGraph.mem_vertices_ensureAll _ _ _ present
    · exact .inr (.inr ⟨old, elsewhere⟩)
    · exact .inr (.inl ⟨(List.mem_cons.1 among).resolve_left elsewhere, fresh⟩)
  · exact .inl same

/-- Visiting a place gives nodes to it and to its operands only. -/
theorem places_visited (graph : ExpressionGraph) (place : Nat) :
    (dag.visited graph place).places =
      (graph.ensureAll dag.kind (place :: dag.operands place)).places :=
  ExpressionGraph.places_change fun _ _ => rfl

/-- The places that have nodes after a visit. -/
theorem mem_places_visited_iff (graph : ExpressionGraph) (place other : Nat) :
    other ∈ (dag.visited graph place).places ↔
      other ∈ graph.places ∨ other = place ∨ other ∈ dag.operands place := by
  rw [places_visited, ExpressionGraph.mem_places_ensureAll_iff, List.mem_cons]

/-- The first place that has a node stays the first, and the first place that is visited gets
the first node. -/
theorem head?_places_visited (graph : ExpressionGraph) (place : Nat) :
    (dag.visited graph place).places.head? = graph.places.head?.or (some place) := by
  obtain ⟨added, grown⟩ := ExpressionGraph.prefix_places_ensureAll
    (graph.ensure place (dag.kind place)) dag.kind (dag.operands place)
  rw [places_visited]
  show ((graph.ensure place (dag.kind place)).ensureAll _ _).places.head? = _
  rw [← grown, ExpressionGraph.places_ensure]
  cases known : graph.places with
  | nil => rfl
  | cons first rest => split <;> rfl

/-- The node after all positions of its operands. -/
theorem foldl_link (place start : Nat) (operands : List Nat) (vertex : Vertex)
    (here : vertex.place = place) :
    (operands.zipIdx start).foldl (fun vertex operand => vertex.link operand.1 operand.2) vertex =
      { vertex with
        edges := (operands.zipIdx start).foldl
          (fun edges operand => Edge.addPosition place operand.1 operand.2 edges)
          vertex.edges } := by
  induction operands generalizing start vertex with
  | nil => rfl
  | cons operand rest ih =>
    rw [List.zipIdx_cons, List.foldl_cons, ih _ (vertex.link operand start) here, Vertex.link, here]
    rfl

/-- Meeting operands gives them nodes and adds their positions to the edges of the operator. -/
theorem graph_foldl_meet {parent : Nat} (start : Nat) (operands : List Nat)
    {exploration : Exploration} (known : parent ∈ exploration.graph.places) :
    ((operands.zipIdx start).foldl (dag.meet parent) exploration).graph =
      (exploration.graph.ensureAll dag.kind operands).change parent fun vertex =>
        (operands.zipIdx start).foldl (fun vertex operand => vertex.link operand.1 operand.2)
          vertex := by
  induction operands generalizing start exploration with
  | nil =>
    show exploration.graph = exploration.graph.change parent fun vertex => vertex
    rw [ExpressionGraph.change]
    simp only [ite_self, List.map_id']
  | cons operand rest ih =>
    have ensured : parent ∈ (exploration.graph.ensure operand (dag.kind operand)).places :=
      (ExpressionGraph.prefix_places_ensureAll _ dag.kind [operand]).subset known
    have stays : ExpressionGraph.Stays parent fun vertex => vertex.link operand start :=
      fun _ here => here
    have met : parent ∈ (dag.meet parent exploration (operand, start)).graph.places := by
      rw [meet, ExpressionGraph.link, ExpressionGraph.places_change stays]
      exact ensured
    rw [List.zipIdx_cons, List.foldl_cons, ih _ met, meet, ExpressionGraph.link,
      ExpressionGraph.ensureAll_change _ dag.kind rest stays ensured,
      ExpressionGraph.change_change stays]
    rfl

/-- Visiting a place completes its node. If the place has no edges yet, a step gives it and its
operands nodes, where they have none, and completes the node of the place; the operands go on the
stack. -/
theorem step_eq_of_unvisited {graph : ExpressionGraph} {place : Nat} {rest : List Nat}
    (new : ¬ graph.isVisited place = true)
    (edgeless : ∀ vertex ∈ graph.vertices, vertex.place = place → vertex.edges = []) :
    dag.step ⟨graph, place :: rest⟩ =
      ⟨dag.visited graph place, (dag.operands place).reverse ++ rest⟩ := by
  have found : place ∈ (graph.ensure place (dag.kind place)).places :=
    (ExpressionGraph.mem_places_ensureAll_iff graph dag.kind [place] place).2
      (.inr (List.mem_singleton_self place))
  have stays : ExpressionGraph.Stays place fun vertex => vertex.visit (dag.kind place) :=
    fun _ here => here
  have known : place ∈ (graph.visit place (dag.kind place)).places := by
    rw [ExpressionGraph.visit, ExpressionGraph.places_change stays]
    exact found
  rw [step_of_unvisited dag new, Exploration.mk.injEq]
  refine ⟨?_, stack_foldl_meet dag place 0 (dag.operands place) _⟩
  rw [graph_foldl_meet 0 (dag.operands place) known, ExpressionGraph.visit,
    ExpressionGraph.ensureAll_change _ dag.kind _ stays found,
    ExpressionGraph.change_change stays]
  refine ExpressionGraph.change_congr fun vertex member here => ?_
  have empty : vertex.edges = [] := by
    obtain old | ⟨_, fresh⟩ := ExpressionGraph.mem_vertices_ensureAll graph dag.kind
      (place :: dag.operands place) member
    · exact edgeless vertex old here
    · rw [fresh]
  rw [foldl_link place 0 _ (vertex.visit (dag.kind place)) here, Vertex.visit, empty,
    Edge.foldl_addPosition, here]
  rfl

variable (dag)

/-- What holds of every exploration on the way: a node is complete, or else it is fresh and its
place is on the stack. -/
structure Explores (root : Nat) (exploration : Exploration) : Prop where
  /-- The root is remembered. -/
  root_eq : exploration.graph.root = root
  /-- The first place that gets a node is the root, which is the only place on the stack until
  then. -/
  first : exploration.graph.places.head? = some root ∨
    exploration.graph.places = [] ∧ exploration.stack = [root]
  /-- No place has two nodes. -/
  distinct : exploration.graph.places.Nodup
  /-- All places that have nodes, or are to be looked at, can be reached. -/
  reached : ∀ place, place ∈ exploration.graph.places ∨ place ∈ exploration.stack →
    dag.Reaches root place
  /-- Every node is complete, or it is fresh and its place is to be looked at. -/
  settled : ∀ vertex ∈ exploration.graph.vertices,
    vertex = dag.complete vertex.place ∨
      vertex = dag.fresh vertex.place ∧ vertex.place ∈ exploration.stack
  /-- The operands of a visited place have nodes. -/
  closed : ∀ vertex ∈ exploration.graph.vertices, vertex.visited = true →
    ∀ operand ∈ dag.operands vertex.place, operand ∈ exploration.graph.places

variable {dag}

/-- The beginning of an exploration. -/
theorem explores_start (root : Nat) : dag.Explores root (.start root) where
  root_eq := rfl
  first := .inr ⟨rfl, rfl⟩
  distinct := List.nodup_nil
  reached := by
    rintro place (member | member)
    · cases member
    · rw [List.mem_singleton.1 member]
      exact .refl
  settled := nofun
  closed := nofun

/-- The node of a visited place is complete. -/
theorem Explores.complete_of_visited {root : Nat} {exploration : Exploration}
    (explores : dag.Explores root exploration) {vertex : Vertex}
    (member : vertex ∈ exploration.graph.vertices)
    (seen : exploration.graph.isVisited vertex.place = true) :
    vertex = dag.complete vertex.place := by
  obtain ⟨other, present, visited⟩ := List.any_eq_true.1 seen
  rw [Bool.and_eq_true, beq_iff_eq] at visited
  have same : other = vertex :=
    List.inj_on_of_nodup_map explores.distinct present member visited.1
  obtain complete | ⟨fresh, _⟩ := explores.settled vertex member
  · exact complete
  · have unvisited : vertex.visited = false := by rw [fresh]; rfl
    rw [← same, visited.2] at unvisited
    cases unvisited

/-- Passing over a visited place keeps what holds. -/
theorem Explores.step_of_visited {root place : Nat} {graph : ExpressionGraph} {rest : List Nat}
    (explores : dag.Explores root ⟨graph, place :: rest⟩) (seen : graph.isVisited place = true) :
    dag.Explores root ⟨graph, rest⟩ where
  root_eq := explores.root_eq
  first := by
    refine explores.first.imp_right fun nothing => ?_
    obtain ⟨vertex, member, _⟩ := List.any_eq_true.1 seen
    have present : vertex.place ∈ graph.places := List.mem_map_of_mem member
    rw [nothing.1] at present
    cases present
  distinct := explores.distinct
  reached := fun other either =>
    explores.reached other (either.imp_right (List.mem_cons_of_mem place))
  settled := by
    intro vertex member
    obtain complete | ⟨fresh, pending⟩ := explores.settled vertex member
    · exact .inl complete
    · obtain here | behind := List.mem_cons.1 pending
      · exact .inl (explores.complete_of_visited member (here ▸ seen))
      · exact .inr ⟨fresh, behind⟩
  closed := explores.closed

/-- A place without a visited node has no edges. -/
theorem Explores.edges_eq_nil {root : Nat} {exploration : Exploration}
    (explores : dag.Explores root exploration) {vertex : Vertex}
    (member : vertex ∈ exploration.graph.vertices)
    (new : ¬ exploration.graph.isVisited vertex.place = true) : vertex.edges = [] := by
  obtain complete | ⟨fresh, _⟩ := explores.settled vertex member
  · refine absurd (List.any_eq_true.2 ⟨vertex, member, ?_⟩) new
    rw [complete, beq_self_eq_true]
    rfl
  · rw [fresh]
    rfl

/-- Visiting a place keeps what holds. -/
theorem Explores.step_of_unvisited {root place : Nat} {graph : ExpressionGraph}
    {rest : List Nat} (explores : dag.Explores root ⟨graph, place :: rest⟩)
    (new : ¬ graph.isVisited place = true) :
    dag.Explores root (dag.step ⟨graph, place :: rest⟩) := by
  have edgeless : ∀ vertex ∈ graph.vertices, vertex.place = place → vertex.edges = [] :=
    fun vertex member here => explores.edges_eq_nil member (here.symm ▸ new)
  rw [step_eq_of_unvisited new edgeless]
  have reached : dag.Reaches root place := explores.reached place (.inr List.mem_cons_self)
  have onward : ∀ operand ∈ dag.operands place, dag.Reaches root operand :=
    fun operand member => reached.tail member
  constructor
  case root_eq => exact (ExpressionGraph.root_ensureAll _ _ _).trans explores.root_eq
  case first =>
    rw [head?_places_visited]
    obtain started | ⟨nothing, alone⟩ := explores.first
    · rw [started]
      exact .inl rfl
    · rw [nothing, (List.cons.inj alone).1]
      exact .inl rfl
  case distinct =>
    rw [places_visited]
    exact ExpressionGraph.nodup_places_ensureAll _ _ _ explores.distinct
  case reached =>
    rintro other (member | member)
    · obtain old | rfl | operand := (mem_places_visited_iff graph place other).1 member
      · exact explores.reached other (.inl old)
      · exact reached
      · exact onward other operand
    · obtain operand | behind := List.mem_append.1 member
      · exact onward other (List.mem_reverse.1 operand)
      · exact explores.reached other (.inr (List.mem_cons_of_mem place behind))
  case settled =>
    intro vertex member
    obtain complete | ⟨operand, fresh⟩ | ⟨old, elsewhere⟩ := mem_vertices_visited member
    · rw [complete]
      exact .inl rfl
    · exact .inr ⟨fresh, List.mem_append_left _ (List.mem_reverse.2 operand)⟩
    · refine (explores.settled vertex old).imp_right (And.imp_right fun pending => ?_)
      exact List.mem_append_right _ ((List.mem_cons.1 pending).resolve_left elsewhere)
  case closed =>
    intro vertex member seen operand below
    rw [mem_places_visited_iff]
    obtain complete | ⟨_, fresh⟩ | ⟨old, _⟩ := mem_vertices_visited member
    · rw [complete] at below
      exact .inr (.inr below)
    · rw [fresh] at seen
      cases seen
    · exact .inl (explores.closed vertex old seen operand below)

/-- A step keeps what holds. -/
theorem Explores.step {root : Nat} {exploration : Exploration}
    (explores : dag.Explores root exploration) : dag.Explores root (dag.step exploration) := by
  obtain ⟨graph, stack⟩ := exploration
  cases stack with
  | nil => exact explores
  | cons place rest =>
    by_cases seen : graph.isVisited place = true
    · rw [Dag.step_of_visited dag seen]
      exact explores.step_of_visited seen
    · exact explores.step_of_unvisited seen

variable (dag)

/-- Every exploration ends: after some number of steps its stack is empty. -/
theorem exists_iterate_step (exploration : Exploration) :
    ∃ steps, dag.step^[steps] exploration = ⟨dag.explore exploration, []⟩ := by
  induction exploration using Dag.explore.induct dag with
  | case1 exploration done =>
    obtain ⟨graph, stack⟩ := exploration
    obtain rfl : stack = [] := done
    exact ⟨0, by rw [explore, dif_pos rfl]; rfl⟩
  | case2 exploration pending ih =>
    obtain ⟨steps, ended⟩ := ih
    have onward : dag.explore exploration = dag.explore (dag.step exploration) := by
      rw [explore, dif_neg pending]
    exact ⟨steps + 1, by rw [Function.iterate_succ_apply, ended, onward]⟩

/-- What holds on the way holds in the end. -/
theorem explores_graph (root : Nat) : dag.Explores root ⟨dag.graph root, []⟩ := by
  obtain ⟨steps, ended⟩ := exists_iterate_step dag (.start root)
  rw [graph, ← ended]
  exact Function.Iterate.rec (dag.Explores root) (explores_start root)
    (fun _ explores => explores.step) steps

variable (root : Nat)

/-- In the end all nodes are complete. -/
theorem vertices_graph :
    (dag.graph root).vertices = (dag.graph root).places.map dag.complete := by
  rw [ExpressionGraph.places, List.map_map]
  refine (List.map_id _).symm.trans (List.map_congr_left fun vertex member => ?_)
  exact ((explores_graph dag root).settled vertex member).resolve_right fun fresh =>
    List.not_mem_nil fresh.2

/-- The root is the first place of the graph. -/
theorem head?_places_graph : (dag.graph root).places.head? = some root :=
  (explores_graph dag root).first.resolve_right fun nothing => List.cons_ne_nil _ _ nothing.2.symm

/-- The places of the graph are those that can be reached. -/
theorem mem_places_graph_iff (place : Nat) :
    place ∈ (dag.graph root).places ↔ dag.Reaches root place := by
  have explores := explores_graph dag root
  refine ⟨fun member => explores.reached place (.inl member), fun reaches => ?_⟩
  induction reaches with
  | refl => exact List.mem_of_mem_head? (head?_places_graph dag root)
  | @tail parent child _ operand ih =>
    have vertex : dag.complete parent ∈ (dag.graph root).vertices := by
      rw [vertices_graph]
      exact List.mem_map_of_mem ih
    exact explores.closed (dag.complete parent) vertex rfl child operand

end Dag

end GraphPattern
