import GraphPattern.Binding

/-!
# Binding sources

A source is a description of a sequence of bindings: a tree of operators over
given bindings. Building one enumerates nothing. Two sources are constants of
the algebra, the neutral elements of join and union, and every mention of a
constant means the same expression.
-/

namespace GraphPattern

/-- An operator of the algebra over operands of any kind. -/
inductive Operator (α : Type) where
  /-- Exactly one binding. -/
  | single (binding : Binding)
  /-- The given bindings in order. -/
  | table (bindings : List Binding)
  /-- A number of full enumerations of an operand. -/
  | multiply (operand : α) (times : Nat)
  /-- The enumerations of all operands in order. -/
  | union (operands : List α)
  /-- The bindings of an operand that are compatible with a binding, merged with it. -/
  | extend (operand : α) (binding : Binding)
  /-- For every binding on the right, the left operand extended with it. -/
  | join (left right : α)
  /-- The bindings of an operand restricted to some variables. -/
  | project (operand : α) (kept : List String)
  /-- A single fault. -/
  | failure (fault : Error)
  /-- An expression that nothing is known about and that cannot be enumerated. -/
  | unknown

namespace Operator

variable {α β : Type}

/-- The word for an operator. -/
def kind : Operator α → String
  | single _ => "single"
  | table _ => "table"
  | multiply _ _ => "multiply"
  | union _ => "union"
  | extend _ _ => "extend"
  | join _ _ => "join"
  | project _ _ => "project"
  | failure _ => "failure"
  | unknown => "source"

/-- The operands, in the order of their positions. -/
def operands : Operator α → List α
  | multiply operand _ | extend operand _ | project operand _ => [operand]
  | union operands => operands
  | join left right => [left, right]
  | single _ | table _ | failure _ | unknown => []

end Operator

/-- A source of bindings. -/
inductive Source where
  /-- The constant with one empty binding, neutral for joins. -/
  | compatible
  /-- The constant without bindings, neutral for unions. -/
  | incompatible
  /-- Exactly one binding. -/
  | single (binding : Binding)
  /-- The given bindings in order. -/
  | table (bindings : List Binding)
  /-- A number of full enumerations of a source. -/
  | multiply (source : Source) (times : Nat)
  /-- The enumerations of all sources in order. -/
  | union (sources : List Source)
  /-- The bindings of a source that are compatible with a binding, merged with it. -/
  | extend (source : Source) (binding : Binding)
  /-- For every binding on the right, the left source extended with it. -/
  | join (left right : Source)
  /-- The bindings of a source restricted to some variables. -/
  | project (source : Source) (kept : List String)
  /-- A single fault. -/
  | failure (fault : Error)
  /-- An expression that nothing is known about and that cannot be enumerated. -/
  | unknown

namespace Source

/-- The outermost operator. The constants are a single empty binding and an empty union. -/
def operator : Source → Operator Source
  | compatible => .single .empty
  | incompatible => .union []
  | single binding => .single binding
  | table bindings => .table bindings
  | multiply source times => .multiply source times
  | union sources => .union sources
  | extend source binding => .extend source binding
  | join left right => .join left right
  | project source kept => .project source kept
  | failure fault => .failure fault
  | unknown => .unknown

/-- The source of an operator over sources. -/
def ofOperator : Operator Source → Source
  | .single binding => single binding
  | .table bindings => table bindings
  | .multiply source times => multiply source times
  | .union sources => union sources
  | .extend source binding => extend source binding
  | .join left right => join left right
  | .project source kept => project source kept
  | .failure fault => failure fault
  | .unknown => unknown

/-- The join of a list of sources, folded from the right onto a single empty binding. -/
def joinAll (sources : List Source) : Source := sources.foldr join (single .empty)

end Source

end GraphPattern
