import GraphPattern.Run

/-!
# Sessions

A session holds registrations and runs them against documents, any number of
times. What it has delivered so far belongs to it, because an action may fail
after a number of calls. A request that is refused leaves a session as it was.
-/

namespace GraphPattern

/-- Registrations, and all that was delivered so far. -/
structure Session where
  /-- What runs depend on. -/
  setup : Setup
  /-- The registrations. -/
  registry : Registry := []
  /-- The deliveries of all runs, in order. -/
  history : List Delivery := []

namespace Session

/-- Registers a pattern and gives its registration and label. -/
def register (session : Session) (request : Request) : Session × Run (String × Registration) :=
  let accepted : Except Error (Registration × Registry) := do
    let registration ← Registration.ofRequest request
    return (registration, ← session.registry.add registration)
  match accepted with
  | .error error => (session, Traced.ofExcept (.error error))
  | .ok (registration, registry) =>
    let label := registration.label session.registry.length
    ({ session with registry := registry }, do
      Run.log .debug ("Registered " ++ label ++ " with " ++
        toString registration.variableNames.length ++ " variables")
      return (label, registration))

/-- Registers patterns one after the other; the first that is refused ends it. -/
def registerAll (session : Session) : List Request → Session × Run Unit
  | [] => (session, return)
  | request :: rest =>
    let (changed, registered) := session.register request
    match registered.result with
    | .error error => (changed, ⟨registered.trace, .error error⟩)
    | .ok _ =>
      let (last, others) := changed.registerAll rest
      (last, ⟨registered.trace ++ others.trace, others.result⟩)

/-- Takes all registrations out. -/
def clear (session : Session) : Session := { session with registry := [] }

/-- Runs the registered patterns against a document. -/
def run (session : Session) (document : Value) (context : Option Value) : Session × Run Report :=
  let run := session.setup.run session.registry session.history document context
  ({ session with history := session.history ++ run.deliveries }, run)

/-- Registers patterns, runs them against a document, and raises what was observed. -/
def matchAll (setup : Setup) (requests : List Request) (document : Value)
    (context : Option Value) : Run Report :=
  let (session, registered) := registerAll ⟨setup, [], []⟩ requests
  do
    registered
    let report ← (session.run document context).2
    match report.raised? with
    | some error => Traced.ofExcept (.error error)
    | none => return report

/-- Registering changes the registry as the operation does, and a refusal changes nothing. -/
theorem registry_register (session : Session) (request : Request) :
    (session.register request).1.registry = session.registry.after [.register request] := by
  unfold register Registry.after
  simp only [Registry.apply, bind, Except.bind, pure, Except.pure]
  rcases Registration.ofRequest request with _ | registration
  · rfl
  · dsimp only
    rcases session.registry.add registration <;> rfl

end Session

end GraphPattern
