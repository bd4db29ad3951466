import GraphPattern.Expression.Graph
import Mathlib.Algebra.BigOperators.Group.List.Lemmas
import Mathlib.Algebra.GroupWithZero.Nat

/-!
# The edges of an operator

The edges of an operator come about one position at a time: each operand either
gets its position added to the edge that it has or gets a new edge. Once all
operands are met, there is one edge for every different operand, in the order of
first appearance, with the list of all positions at which the operand stands.

This module owns the edges of one operator; how an exploration gathers those of
a whole expression is stated elsewhere.
-/

namespace GraphPattern

/-- The sum of numbers as the library has it. -/
theorem total_eq_sum (numbers : List Nat) : total numbers = numbers.sum := rfl

/-- First appearances do not repeat. -/
theorem nodup_eraseDups (places : List Nat) : places.eraseDups.Nodup := by
  match places with
  | [] => exact List.nodup_nil
  | place :: rest =>
    rw [List.eraseDups_cons, List.nodup_cons]
    refine ⟨fun repeated => ?_, nodup_eraseDups (rest.filter fun other => !other == place)⟩
    have kept := List.mem_filter.1 (List.mem_eraseDups.1 repeated)
    simp at kept
termination_by places.length
decreasing_by exact Nat.lt_succ_of_le (List.length_filter_le _ _)

/-- A new element comes behind the first appearances, and one that has appeared changes none. -/
theorem eraseDups_concat (places : List Nat) (place : Nat) :
    (places ++ [place]).eraseDups =
      if place ∈ places then places.eraseDups else places.eraseDups ++ [place] := by
  rw [List.eraseDups_append]
  by_cases met : place ∈ places
  · rw [if_pos met, List.removeAll, List.filter_cons_of_neg (by simpa using met)]
    exact List.append_nil _
  · rw [if_neg met, List.removeAll, List.filter_cons_of_pos (by simpa using met)]
    rfl

/-- The first of the positions of an element is its first position. -/
theorem head?_idxsOf {place : Nat} {places : List Nat} (start : Nat) (member : place ∈ places) :
    (places.idxsOf place start).head? = some (start + places.idxOf place) := by
  induction places generalizing start with
  | nil => cases member
  | cons first rest ih =>
    rw [List.idxsOf_cons, List.idxOf_cons]
    by_cases same : first = place
    · rw [if_pos (beq_iff_eq.2 same), Bool.cond_eq_ite, if_pos (beq_iff_eq.2 same)]
      rfl
    · have later := (List.mem_cons.1 member).resolve_left fun here => same here.symm
      rw [if_neg (mt beq_iff_eq.1 same), Bool.cond_eq_ite, if_neg (mt beq_iff_eq.1 same),
        ih (start + 1) later, Nat.add_right_comm, Nat.add_assoc]

/-- Where an element stands. -/
theorem mem_idxsOf_iff (place position : Nat) (places : List Nat) :
    position ∈ places.idxsOf place ↔ places[position]? = some place := by
  rw [List.mem_idxsOf_iff_exists_getElem_pos, List.getElem?_eq_some_iff]
  simp only [beq_iff_eq]

/-- An element added at the end stands there as well. -/
theorem idxsOf_concat (places : List Nat) (last place : Nat) :
    (places ++ [last]).idxsOf place =
      places.idxsOf place ++ if last = place then [places.length] else [] := by
  rw [List.idxsOf_append, List.idxsOf_cons, List.idxsOf_nil, Nat.zero_add]
  simp only [beq_iff_eq]

namespace Edge

/-- The edges of an operator that has met some operands. -/
def ofOperands (parent : Nat) (operands : List Nat) : List Edge :=
  operands.eraseDups.map fun child =>
    ⟨parent, child, operands.idxOf child, operands.idxsOf child⟩

/-- A position is added to the edge that an operand has. -/
theorem addPosition_of_mem (parent position : Nat) {child : Nat} {edges : List Edge}
    (distinct : (edges.map Edge.child).Nodup) (met : child ∈ edges.map Edge.child) :
    addPosition parent child position edges =
      edges.map fun edge =>
        if edge.child = child then { edge with positions := edge.positions ++ [position] }
        else edge := by
  induction edges with
  | nil => cases met
  | cons edge rest ih =>
    rw [List.map_cons, List.nodup_cons] at distinct
    rw [List.map_cons, List.mem_cons] at met
    rw [addPosition, List.map_cons]
    by_cases here : edge.child = child
    · have others : ∀ other ∈ rest, ¬ other.child = child := by
        intro other member same
        exact distinct.1 (here ▸ same ▸ List.mem_map_of_mem member)
      rw [if_pos here, if_pos here]
      congr 1
      exact (List.map_id' rest).symm.trans
        (List.map_congr_left fun other member => (if_neg (others other member)).symm)
    · have later : child ∈ rest.map Edge.child := met.resolve_left fun same => here same.symm
      rw [if_neg here, if_neg here, ih distinct.2 later]

/-- An operand without an edge gets one behind the others. -/
theorem addPosition_of_not_mem (parent position : Nat) {child : Nat} {edges : List Edge}
    (new : child ∉ edges.map Edge.child) :
    addPosition parent child position edges =
      edges ++ [⟨parent, child, position, [position]⟩] := by
  induction edges with
  | nil => rfl
  | cons edge rest ih =>
    rw [List.map_cons, List.mem_cons, not_or] at new
    rw [addPosition, if_neg fun same => new.1 same.symm, ih new.2, List.cons_append]

variable (parent : Nat) (operands : List Nat)

/-- An operator has an edge for every different operand. -/
theorem map_child_ofOperands :
    (ofOperands parent operands).map Edge.child = operands.eraseDups := by
  rw [ofOperands, List.map_map]
  exact List.map_id _

/-- Meeting one more operand adds its position. -/
theorem addPosition_ofOperands (child : Nat) :
    addPosition parent child operands.length (ofOperands parent operands) =
      ofOperands parent (operands ++ [child]) := by
  have first : ∀ other ∈ operands.eraseDups,
      (operands ++ [child]).idxOf other = operands.idxOf other :=
    fun other member => List.idxOf_append_of_mem (List.mem_eraseDups.1 member)
  by_cases met : child ∈ operands
  · rw [addPosition_of_mem, ofOperands, ofOperands, eraseDups_concat, if_pos met, List.map_map]
    · refine List.map_congr_left fun other member => ?_
      rw [first other member, idxsOf_concat, Function.comp_apply]
      by_cases same : other = child
      · rw [if_pos same, if_pos same.symm]
      · rw [if_neg same, if_neg (Ne.symm same), List.append_nil]
    · rw [map_child_ofOperands]
      exact nodup_eraseDups operands
    · rw [map_child_ofOperands]
      exact List.mem_eraseDups.2 met
  · have unmet : child ∉ operands.eraseDups := fun member => met (List.mem_eraseDups.1 member)
    rw [addPosition_of_not_mem, ofOperands, ofOperands, eraseDups_concat, if_neg met,
      List.map_append]
    · congr 1
      · refine List.map_congr_left fun other member => ?_
        have different : ¬ child = other := fun same => unmet (same ▸ member)
        rw [first other member, idxsOf_concat, if_neg different, List.append_nil]
      · have none : operands.idxsOf child = [] :=
          List.idxsOf_eq_nil_iff.2 fun other member =>
            beq_eq_false_iff_ne.2 fun same => met (same ▸ member)
        rw [List.map_singleton, idxsOf_concat, none, if_pos rfl,
          List.idxOf_append_of_notMem met, List.idxOf_cons_self, Nat.add_zero, List.nil_append]
    · rw [map_child_ofOperands]
      exact unmet

/-- Meeting all operands in order, each with its position, gives the edges of the operator. -/
theorem foldl_addPosition :
    operands.zipIdx.foldl
        (fun edges operand => addPosition parent operand.1 operand.2 edges) [] =
      ofOperands parent operands := by
  induction operands using List.reverseRecOn with
  | nil => rfl
  | append_singleton operands child ih =>
    rw [List.zipIdx_append, List.foldl_append, ih, Nat.zero_add]
    exact addPosition_ofOperands parent operands child

variable {parent operands}

/-- What an edge says: it leads to an operand, and bears the positions of that operand. -/
theorem mem_ofOperands_iff (edge : Edge) :
    edge ∈ ofOperands parent operands ↔
      edge.parent = parent ∧ edge.child ∈ operands ∧
        edge.position = operands.idxOf edge.child ∧
        edge.positions = operands.idxsOf edge.child := by
  rw [ofOperands, List.mem_map]
  constructor
  · rintro ⟨child, member, rfl⟩
    exact ⟨rfl, List.mem_eraseDups.1 member, rfl, rfl⟩
  · rintro ⟨fromParent, member, first, all⟩
    exact ⟨edge.child, List.mem_eraseDups.2 member, by rw [← fromParent, ← first, ← all]⟩

/-- The positions on the edges of an operator are as many as its operands. -/
theorem sum_positions_ofOperands :
    total ((ofOperands parent operands).map fun edge => edge.positions.length) =
      operands.length := by
  have counted : ((ofOperands parent operands).map fun edge => edge.positions.length) =
      operands.eraseDups.map fun child => operands.count child := by
    rw [ofOperands, List.map_map]
    exact List.map_congr_left fun child _ => List.length_idxsOf
  have sameElements : operands.eraseDups.Perm operands.dedup :=
    (List.perm_ext_iff_of_nodup (nodup_eraseDups operands) (List.nodup_dedup operands)).2
      fun child => List.mem_eraseDups.trans List.mem_dedup.symm
  rw [counted, total_eq_sum, (sameElements.map _).sum_eq, List.sum_map_count_dedup_eq_length]

/-- The positions on the edges to one operand are as many as its appearances. -/
theorem sum_positions_ofOperands_to (child : Nat) :
    total (((ofOperands parent operands).filter fun edge => edge.child == child).map
      fun edge => edge.positions.length) = operands.count child := by
  have only : operands.eraseDups.filter (fun other => other == child) =
      if child ∈ operands then [child] else [] := by
    rw [List.filter_beq]
    by_cases met : child ∈ operands
    · rw [if_pos met, List.count_eq_one_of_mem (nodup_eraseDups operands)
        (List.mem_eraseDups.2 met)]
      rfl
    · rw [if_neg met, List.count_eq_zero_of_not_mem fun member =>
        met (List.mem_eraseDups.1 member)]
      rfl
  rw [ofOperands, List.filter_map, List.map_map, Function.comp_def, Function.comp_def]
  show total (List.map (fun other => (operands.idxsOf other).length)
    (operands.eraseDups.filter fun other => other == child)) = _
  rw [only]
  by_cases met : child ∈ operands
  · rw [if_pos met, List.map_singleton, total_cons, total_nil, List.length_idxsOf,
      Nat.add_zero]
  · rw [if_neg met, List.map_nil, total_nil, List.count_eq_zero_of_not_mem met]

end Edge

end GraphPattern
