import GraphPattern.Source.Basic
import GraphPattern.Source.Walk

/-!
# Enumerating a source

The events of a source are its bindings and faults, in order. A fault passes
through every operator and stops nothing beside it. Bindings meet in extensions
and joins: two are compatible when every variable that both bind has equal
values, and then the second adds its further variables to the first.

Compatibility is tested variable by variable, in the order of the extension,
and a test gets the extension's value first.
-/

namespace GraphPattern

/-- One event of an enumeration. -/
inductive Event where
  /-- A binding. -/
  | binding (binding : Binding)
  /-- A fault. -/
  | fault (error : Error)

namespace Event

/-- The binding, if the event is one. -/
def binding? : Event → Option Binding
  | binding bound => some bound
  | fault _ => none

/-- The error, if the event is a fault. -/
def fault? : Event → Option Error
  | binding _ => none
  | fault error => some error

/-- The kind of the expression that emits a fault. -/
def faultOrigin : String := "failure"

/-- The event with its binding restricted to some variables. -/
def restricted (kept : List String) : Event → Event
  | binding bound => binding (bound.restricted kept)
  | fault error => fault error

/-- The walk that merges a binding into an event it is compatible with. -/
def extended (equal : EqualityTest) (extension : Binding) : Event → Walk Event
  | binding bound =>
    Walk.agreeing equal (binding (bound.merged extension)) (bound.shared extension)
  | fault error => Walk.one (fault error)

end Event

namespace Source

mutual

/-- The walk through the events of a source. -/
def walk (equal : EqualityTest) : Source → Walk Event
  | compatible => Walk.one (.binding .empty)
  | incompatible => .done
  | single binding => Walk.one (.binding binding)
  | table bindings => (Walk.ofList bindings).map .binding
  | multiply source times => (walk equal source).copies times
  | union sources => walkAll equal sources
  | extend source binding => (walk equal source).bind (Event.extended equal binding)
  | join left right =>
    (walk equal right).bind fun
      | .binding binding => (walk equal left).bind (Event.extended equal binding)
      | .fault error => Walk.one (.fault error)
  | project source kept => (walk equal source).map (Event.restricted kept)
  | failure fault => Walk.one (.fault fault)
  | unknown => .failed .unknownSource

/-- The walk through the events of sources, one source behind the other. -/
def walkAll (equal : EqualityTest) : List Source → Walk Event
  | [] => .done
  | source :: rest => (walk equal source).append fun _ => walkAll equal rest

end

end Source

namespace Observation

/-- The bindings of an enumeration that went through without an error or a fault. -/
def bindings (observation : Observation Event) : Except Error (List Binding) :=
  match observation.error, observation.elements.filterMap Event.fault? with
  | some error, _ => .error error
  | none, [] => .ok (observation.elements.filterMap Event.binding?)
  | none, fault :: faults => .error (.ofFaults (fault :: faults))

/-- The faults of an enumeration that went through without an error. -/
def faults (observation : Observation Event) : Except Error (List Error) :=
  match observation.error with
  | some error => .error error
  | none => .ok (observation.elements.filterMap Event.fault?)

end Observation

namespace Binding

/-- Whether every variable that both bindings bind has equal values: the walk has an element
exactly if so. -/
def compatibility (equal : EqualityTest) (binding extension : Binding) : Walk Unit :=
  Walk.agreeing equal () (binding.shared extension)

/-- Whether two bindings bind the same variables to equal values: the walk has an element exactly
if so. -/
def sameness (equal : EqualityTest) (binding other : Binding) : Walk Unit :=
  match binding.aligned? other with
  | some pairs => Walk.agreeing equal () pairs
  | none => .done

end Binding

end GraphPattern
