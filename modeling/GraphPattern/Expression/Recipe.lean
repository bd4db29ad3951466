import GraphPattern.Expression.Dag

/-!
# Building shared expressions

A recipe says how to build an expression, and it may use expressions that have
been built and named before: using a name twice uses one expression twice.
Every other mention builds a new expression.
-/

namespace GraphPattern

/-- Instructions for building an expression. -/
inductive Recipe where
  /-- The expression built under a name. -/
  | named (name : String)
  /-- The constant with one empty binding. -/
  | compatible
  /-- The constant without bindings. -/
  | incompatible
  /-- A source of one binding. -/
  | single (binding : Binding)
  /-- A source of given bindings. -/
  | table (bindings : List Binding)
  /-- A source repeated; the number of times must not be negative. -/
  | multiply (recipe : Recipe) (times : Int)
  /-- A union. -/
  | union (recipes : List Recipe)
  /-- An extension by a binding. -/
  | extend (recipe : Recipe) (binding : Binding)
  /-- A join of any number of sources, folded from the right onto a new single empty binding. -/
  | join (recipes : List Recipe)
  /-- A projection onto variables. -/
  | project (recipe : Recipe) (kept : List String)
  /-- A single fault. -/
  | failure (fault : Error)
  /-- An expression that nothing is known about. -/
  | unknown
  deriving Inhabited

namespace Recipe

/-- Joins places from the right onto a place that is already there. -/
def joinPlaces {dag : Dag} (last : Placed dag) : (places : List Nat) →
    (∀ place ∈ places, place < last.result.size) → Placed dag
  | [], _ => last
  | place :: rest, inside =>
    joinPlaces
      (last.joinOnto (last.result.existing place (inside place List.mem_cons_self)))
      rest fun other member => by
        exact Nat.lt_of_lt_of_le (inside other (List.mem_cons_of_mem _ member)) (Placed.grown _)

mutual

/-- Builds an expression into a graph whose named places are given. -/
def build (names : Entries Nat) (dag : Dag) : Recipe → Except Error (Placed dag)
  | named name =>
    match names.get? name with
    | some place => if inside : place < dag.size then .ok (dag.existing place inside)
      else .error (.missingKey name)
    | none => .error (.missingKey name)
  | compatible => .ok (Source.compatible.placeIn dag)
  | incompatible => .ok (Source.incompatible.placeIn dag)
  | single binding => .ok ((Source.single binding).placeIn dag)
  | table bindings => .ok ((Source.table bindings).placeIn dag)
  | multiply recipe times => do
    let placed ← build names dag recipe
    if times < 0 then .error (.negativeTimes times)
    else .ok (placed.wrap (.multiply · times.toNat) fun _ => rfl)
  | union recipes => do return (← buildAll names dag recipes).union
  | extend recipe binding => do
    return (← build names dag recipe).wrap (.extend · binding) fun _ => rfl
  | join recipes => do
    let placed ← buildAll names dag recipes
    let last := placed.result.place (.single .empty) (by simp [Operator.operands])
    return joinPlaces (last.since placed.grown) placed.places.reverse fun place member =>
      Nat.lt_of_lt_of_le (placed.inside place (List.mem_reverse.1 member)) last.grown
  | project recipe kept => do
    return (← build names dag recipe).wrap (.project · kept) fun _ => rfl
  | failure fault => .ok ((Source.failure fault).placeIn dag)
  | unknown => .ok (Source.unknown.placeIn dag)

/-- Builds expressions into a graph, in order. -/
def buildAll (names : Entries Nat) (dag : Dag) : List Recipe → Except Error (PlacedAll dag)
  | [] => .ok (PlacedAll.none dag)
  | recipe :: rest => do
    let first ← build names dag recipe
    return PlacedAll.cons first (← buildAll names first.result rest)

end

/-- Builds named expressions in order and then one more, whose place is the answer. -/
def buildWith (names : Entries Nat) (dag : Dag) (recipe : Recipe) :
    List (String × Recipe) → Except Error (Dag × Nat)
  | [] => do
    let placed ← build names dag recipe
    return (placed.result, placed.place)
  | (name, definition) :: rest => do
    let placed ← build names dag definition
    buildWith (names.put name placed.place) placed.result recipe rest

end Recipe

end GraphPattern
