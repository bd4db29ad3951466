import GraphPattern.Registration

/-!
# Registries

The registrations of a session, in the order in which they were accepted. No
two may have the same label, and a label can come from a place as well as from a
name, so a name that is spelled like the label of a place can stand in its way.

Main statement: adding keeps labels distinct and changes no earlier one, so
labels are distinct after any operations.
-/

namespace GraphPattern

/-- Registrations in the order in which they were accepted. -/
abbrev Registry := List Registration

namespace Registry

/-- Every registration with its label. -/
def labelled (registry : Registry) : List (String × Registration) :=
  registry.zipIdx.map fun (registration, index) => (registration.label index, registration)

/-- The labels, in order. -/
def labels (registry : Registry) : List String := (labelled registry).map Prod.fst

/-- Adds a registration behind the others, unless its label is in use. -/
def add (registry : Registry) (registration : Registration) : Except Error Registry :=
  let label := registration.label registry.length
  if label ∈ labels registry then .error (.labelInUse label)
  else .ok (registry ++ [registration])

/-- What changes a registry. -/
inductive Operation where
  /-- A pattern is to be registered. -/
  | register (request : Request)
  /-- All registrations are taken out. -/
  | clear

/-- The registry after an operation, or the error for which the operation is refused. -/
def apply (registry : Registry) : Operation → Except Error Registry
  | .register request => do registry.add (← Registration.ofRequest request)
  | .clear => .ok []

/-- The registry after operations one after the other; a refused one changes nothing. -/
def after (registry : Registry) : List Operation → Registry
  | [] => registry
  | operation :: rest =>
    match registry.apply operation with
    | .ok changed => after changed rest
    | .error _ => after registry rest

/-- A new registration's label comes behind the others, which stay the same. -/
theorem labels_append (registry : Registry) (registration : Registration) :
    labels (registry ++ [registration]) =
      labels registry ++ [registration.label registry.length] := by
  simp [labels, labelled, List.zipIdx_append]

/-- A registration is added exactly when its label is new. -/
theorem add_eq_ok_iff (registry changed : Registry) (registration : Registration) :
    registry.add registration = .ok changed ↔
      registration.label registry.length ∉ labels registry ∧
        changed = registry ++ [registration] := by
  unfold add
  dsimp only
  split
  · next used => simp [used]
  · next new => simp [new, eq_comm]

/-- Adding keeps labels distinct. -/
theorem nodup_labels_add (registry changed : Registry) (registration : Registration)
    (distinct : (labels registry).Nodup) (added : registry.add registration = .ok changed) :
    (labels changed).Nodup := by
  obtain ⟨new, rfl⟩ := (add_eq_ok_iff registry changed registration).1 added
  rw [labels_append, List.nodup_append]
  refine ⟨distinct, by simp, fun label present added member => ?_⟩
  rw [List.mem_singleton] at member
  exact fun same => new (by rw [← member, ← same]; exact present)

/-- Labels are distinct after any operations, if they were before. -/
theorem nodup_labels_after (registry : Registry) (operations : List Operation)
    (distinct : (labels registry).Nodup) : (labels (registry.after operations)).Nodup := by
  induction operations generalizing registry with
  | nil => exact distinct
  | cons operation rest ih =>
    rw [after]
    cases applied : registry.apply operation with
    | error error => exact ih registry distinct
    | ok changed =>
      refine ih changed ?_
      cases operation with
      | clear =>
        cases applied
        exact List.nodup_nil
      | register request =>
        rw [apply] at applied
        cases accepted : Registration.ofRequest request with
        | error error =>
          rw [accepted] at applied
          cases applied
        | ok registration =>
          rw [accepted] at applied
          exact nodup_labels_add registry changed registration distinct applied

end Registry

end GraphPattern
