import GraphPattern.Source.Basic

/-!
# Shared expressions

A source can use one and the same expression at several places. An expression
graph keeps every expression once, at a place of its own, and lets operators
refer to the places of their operands. An operand always stands at an earlier
place than the operators that use it, so no expression contains itself and
every place unfolds to a source.
-/

namespace GraphPattern

namespace Operator

variable {α β : Type}

/-- The same operator over other operands. -/
def map (change : α → β) : Operator α → Operator β
  | single binding => single binding
  | table bindings => table bindings
  | multiply operand times => multiply (change operand) times
  | union operands => union (operands.map change)
  | extend operand binding => extend (change operand) binding
  | join left right => join (change left) (change right)
  | project operand kept => project (change operand) kept
  | failure fault => failure fault
  | unknown => unknown

end Operator

/-- Expressions by place. The two constants of the algebra have the first two places. -/
structure Dag where
  /-- The operators behind the constants, each over the places of its operands. -/
  cells : Array (Operator Nat)
  /-- An operand has an earlier place than its operator. -/
  earlier : ∀ (index : Nat) (inside : index < cells.size),
    ∀ operand ∈ cells[index].operands, operand < index + 2

namespace Dag

/-- The graph of the two constants. -/
def constants : Dag := ⟨#[], by simp⟩

/-- The place of the constant with one empty binding. -/
def compatible : Nat := 0

/-- The place of the constant without bindings. -/
def incompatible : Nat := 1

/-- The number of places. -/
def size (dag : Dag) : Nat := dag.cells.size + 2

/-- The operator at a place; beyond the last place stands an expression without operands. -/
def operator (dag : Dag) : Nat → Operator Nat
  | 0 => .single .empty
  | 1 => .union []
  | index + 2 => dag.cells[index]?.getD .unknown

/-- The operands of a place come earlier. -/
theorem operands_lt (dag : Dag) (place : Nat) :
    ∀ operand ∈ (dag.operator place).operands, operand < place := by
  intro operand member
  match place, member with
  | 0, member => simp [operator, Operator.operands] at member
  | 1, member => simp [operator, Operator.operands] at member
  | index + 2, member =>
    by_cases inside : index < dag.cells.size
    · simp only [operator, Array.getElem?_eq_getElem inside, Option.getD_some] at member
      exact dag.earlier index inside operand member
    · simp [operator, Array.getElem?_eq_none (Nat.le_of_not_lt inside), Operator.operands] at member

/-- Adds an operator over places of the graph at the next place. -/
def add (dag : Dag) (operator : Operator Nat)
    (known : ∀ operand ∈ operator.operands, operand < dag.size) : Dag where
  cells := dag.cells.push operator
  earlier := by
    intro index inside operand member
    rw [Array.size_push] at inside
    by_cases last : index = dag.cells.size
    · subst last
      rw [Array.getElem_push_eq] at member
      exact known operand member
    · have before : index < dag.cells.size := by omega
      rw [Array.getElem_push_lt before] at member
      exact dag.earlier index before operand member

/-- Adding makes room for one place. -/
theorem size_add (dag : Dag) (operator : Operator Nat)
    (known : ∀ operand ∈ operator.operands, operand < dag.size) :
    (dag.add operator known).size = dag.size + 1 := by
  simp [add, size, Nat.add_right_comm]

/-- The sources that the places unfold to, in order. -/
def sources (dag : Dag) : Array Source :=
  dag.cells.foldl
    (fun sources operator =>
      sources.push (Source.ofOperator (operator.map fun place => sources[place]?.getD .unknown)))
    #[.compatible, .incompatible]

/-- The source that a place unfolds to. -/
def source (dag : Dag) (place : Nat) : Source := dag.sources[place]?.getD .unknown

end Dag

/-- A place in a graph that has grown out of another. -/
structure Placed (dag : Dag) where
  /-- The grown graph. -/
  result : Dag
  /-- The place. -/
  place : Nat
  /-- No place was lost. -/
  grown : dag.size ≤ result.size
  /-- The place is one of the grown graph. -/
  inside : place < result.size

/-- Places in a graph that has grown out of another. -/
structure PlacedAll (dag : Dag) where
  /-- The grown graph. -/
  result : Dag
  /-- The places. -/
  places : List Nat
  /-- No place was lost. -/
  grown : dag.size ≤ result.size
  /-- The places are among those of the grown graph. -/
  inside : ∀ place ∈ places, place < result.size

namespace Dag

/-- Adds an operator and names its place. -/
def place (dag : Dag) (operator : Operator Nat)
    (known : ∀ operand ∈ operator.operands, operand < dag.size) : Placed dag where
  result := dag.add operator known
  place := dag.size
  grown := by rw [size_add]; omega
  inside := by rw [size_add]; omega

/-- A place of a graph that has not grown. -/
def existing (dag : Dag) (place : Nat) (inside : place < dag.size) : Placed dag :=
  ⟨dag, place, Nat.le_refl _, inside⟩

end Dag

namespace Placed

variable {dag : Dag}

/-- A place seen from the graph before an earlier growth. -/
def since {first : Dag} (grown : first.size ≤ dag.size) (placed : Placed dag) : Placed first :=
  ⟨placed.result, placed.place, Nat.le_trans grown placed.grown, placed.inside⟩

/-- Puts a unary operator on a place. -/
def wrap (placed : Placed dag) (operator : Nat → Operator Nat)
    (unary : ∀ place, (operator place).operands = [place]) : Placed dag :=
  (placed.result.place (operator placed.place) (by
    intro operand member
    rw [unary, List.mem_singleton] at member
    exact member ▸ placed.inside)).since placed.grown

/-- Puts the join on two places of the grown graph. -/
def joinOnto (right : Placed dag) (left : Placed right.result) : Placed dag :=
  (left.result.place (.join left.place right.place) (by
    intro operand member
    simp only [Operator.operands, List.mem_cons, List.not_mem_nil, or_false] at member
    rcases member with rfl | rfl
    · exact left.inside
    · exact Nat.lt_of_lt_of_le right.inside left.grown)).since (Nat.le_trans right.grown left.grown)

end Placed

namespace PlacedAll

variable {dag : Dag}

/-- Puts the union on places. -/
def union (placed : PlacedAll dag) : Placed dag :=
  (placed.result.place (.union placed.places) placed.inside).since placed.grown

/-- No places in a graph that has not grown. -/
def none (dag : Dag) : PlacedAll dag := ⟨dag, [], Nat.le_refl _, by simp⟩

/-- One more place in front. -/
def cons (first : Placed dag) (rest : PlacedAll first.result) : PlacedAll dag where
  result := rest.result
  places := first.place :: rest.places
  grown := Nat.le_trans first.grown rest.grown
  inside := by
    intro place member
    rcases List.mem_cons.1 member with rfl | later
    · exact Nat.lt_of_lt_of_le first.inside rest.grown
    · exact rest.inside place later

end PlacedAll

namespace Source

mutual

/-- Gives every part of a source a place of its own, except that the constants keep theirs. -/
def placeIn (dag : Dag) : Source → Placed dag
  | compatible => dag.existing Dag.compatible (by simp [Dag.compatible, Dag.size])
  | incompatible => dag.existing Dag.incompatible (by simp [Dag.incompatible, Dag.size])
  | single binding => dag.place (.single binding) (by simp [Operator.operands])
  | table bindings => dag.place (.table bindings) (by simp [Operator.operands])
  | multiply source times => (placeIn dag source).wrap (.multiply · times) fun _ => rfl
  | union sources => (placeAllIn dag sources).union
  | extend source binding => (placeIn dag source).wrap (.extend · binding) fun _ => rfl
  | join left right =>
    let right := placeIn dag right
    right.joinOnto (placeIn right.result left)
  | project source kept => (placeIn dag source).wrap (.project · kept) fun _ => rfl
  | failure fault => dag.place (.failure fault) (by simp [Operator.operands])
  | unknown => dag.place .unknown (by simp [Operator.operands])

/-- Gives the sources of a list their places, in order. -/
def placeAllIn (dag : Dag) : List Source → PlacedAll dag
  | [] => PlacedAll.none dag
  | source :: rest =>
    let first := placeIn dag source
    PlacedAll.cons first (placeAllIn first.result rest)

end

/-- The graph of a source and the place of the whole. -/
def toDag (source : Source) : Placed Dag.constants := placeIn Dag.constants source

end Source

end GraphPattern
