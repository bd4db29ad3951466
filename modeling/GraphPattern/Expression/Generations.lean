/-!
# Listing by generations

The nodes of a graph can be listed so that every node comes behind all that
lead to it. A node is free when no edge leads to it from a node that is not
listed yet. The first generation are the nodes that are free from the start;
listing a generation takes its edges away, and the nodes that become free by it
are the next generation.

The edges that are left are kept as one list of the nodes they lead to, in
which a node stands as often as edges lead to it. There is no listing if an edge
is taken away twice, or if edges are left when no node becomes free any more.
-/

namespace GraphPattern

namespace Generations

/-- Takes away edges that lead to the given nodes. The answer is which nodes become free by it, each
with its last edge, and where the edges that are left lead to. -/
def release : (ends edges : List Nat) → Option (List Nat × List Nat)
  | [], edges => some ([], edges)
  | node :: ends, edges =>
    if node ∈ edges then
      let left := edges.erase node
      (release ends left).map fun (freed, rest) =>
        (if node ∈ left then freed else node :: freed, rest)
    else none

/-- Every node that becomes free has cost an edge. -/
theorem length_release {ends edges freed left : List Nat}
    (released : release ends edges = some (freed, left)) :
    left.length + freed.length ≤ edges.length := by
  induction ends generalizing edges freed left with
  | nil =>
    cases released
    exact Nat.le_refl _
  | cons node ends ih =>
    rw [release] at released
    split at released
    · next present =>
      obtain ⟨⟨others, rest⟩, behind, same⟩ := Option.map_eq_some_iff.1 released
      cases same
      have fewer := ih behind
      have size := List.length_erase_of_mem present
      have positive := List.length_pos_of_mem present
      split
      · omega
      · rw [List.length_cons]
        omega
    · cases released

/-- A generation and all that follow it, given where the edges lead that start at nodes not listed
yet. -/
def follow (children : Nat → List Nat) (generation edges : List Nat) : Option (List Nat) :=
  match _released : release (generation.flatMap children) edges with
  | none => none
  | some ([], left) => if left = [] then some generation else none
  | some (node :: others, left) =>
    (follow children (node :: others) left).map fun behind => generation ++ behind
termination_by edges.length
decreasing_by
  have fewer := length_release _released
  rw [List.length_cons] at fewer
  omega

/-- The listing of nodes, if there is one. -/
def list? (nodes : List Nat) (children : Nat → List Nat) : Option (List Nat) :=
  let edges := nodes.flatMap children
  follow children (nodes.filter fun node => decide (node ∉ edges)) edges

end Generations

end GraphPattern
