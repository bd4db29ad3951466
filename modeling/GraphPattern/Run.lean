import GraphPattern.Expression.Dag
import GraphPattern.Expression.Graph
import GraphPattern.Matcher
import GraphPattern.Registry
import GraphPattern.Report
import GraphPattern.Settings

/-!
# Running patterns against a document

A run flattens the document and every pattern, and only if all of that succeeds
does it match the patterns in the order of their registration. Every binding
that a pattern is matched by is delivered to the pattern's action at once, and
every fault is noted for the report. What was delivered before an error stays
delivered, so the trace of a run shows deliveries and log lines up to its end,
whatever that is.
-/

namespace GraphPattern

/-- A binding that was delivered to an action. -/
structure Delivery where
  /-- The number of the action. -/
  action : Nat
  /-- The binding. -/
  binding : Binding

/-- What a run does that can be seen from outside. -/
inductive Activity where
  /-- A line is logged. -/
  | line (line : LogLine)
  /-- A binding is delivered. -/
  | delivery (delivery : Delivery)

namespace Activity

/-- The line, if one is logged. -/
def line? : Activity → Option LogLine
  | .line written => some written
  | .delivery _ => none

/-- The delivery, if there is one. -/
def delivery? : Activity → Option Delivery
  | .line _ => none
  | .delivery made => some made

end Activity

/-- A computation that logs and delivers. -/
abbrev Run (α : Type) := Traced Activity α

namespace Run

variable {α : Type}

/-- The writer of the lines that runs and registrations log. -/
def logWriter : String := "ldmatch.matching.driver"

/-- Logs a line. -/
def log (level : LogLevel) (message : String) : Run Unit :=
  Traced.leave (.line ⟨logWriter, level, message⟩)

/-- The deliveries of a run, in order. -/
def deliveries (run : Run α) : List Delivery := run.trace.filterMap Activity.delivery?

/-- The lines that a run logs, in order. -/
def lines (run : Run α) : List LogLine := run.trace.filterMap Activity.line?

end Run

namespace Action

/-- How often an action was called. -/
def callsIn (action : Action) (history : List Delivery) : Nat :=
  (history.filter fun delivery => delivery.action == action.number).length

/-- Calls an action with a binding, given the number of its earlier calls. -/
def call (action : Action) (earlier : Nat) (binding : Binding) : Run Unit := do
  Traced.leave (.delivery ⟨action.number, binding⟩)
  match action.failure earlier binding with
  | some error => Traced.ofExcept (.error error)
  | none => return

end Action

/-- What runs depend on besides the patterns and the document. -/
structure Setup where
  /-- Matches patterns. -/
  matcher : Matcher
  /-- Flattens documents and patterns. -/
  flatten : (document : Value) → (context : Option Value) → Except Error (List Value)
  /-- What happens with faults. -/
  policy : FaultPolicy
  /-- Whether every delivered binding is logged. -/
  logBindings : Bool
  /-- Which lines are shown. -/
  threshold : LogThreshold

/-- What came of the events of one pattern. -/
structure Outcome where
  /-- The number of delivered bindings. -/
  delivered : Nat
  /-- The faults, in order. -/
  faults : List Error

namespace Setup

/-- The setup of given parts. A matcher that is given brings its own equality and blank start;
otherwise one is made from the settings. The matcher's accessor flattens unless another accessor is
given, and a policy that is not given is that of the settings. -/
def ofParts (fallback : Accessor) (accessor : Option Accessor) (matcher : Option Matcher)
    (equality : Option EqualityTest) (policy : Value) (settings : Settings)
    (threshold : LogThreshold) : Except Error Setup := do
  let matcher := matcher.getD
    (Matcher.ofAccessor (accessor.getD fallback) equality settings.blankStart)
  let policy ← if policy.isVoid then .ok settings.faultPolicy else FaultPolicy.ofSpelling policy
  return ⟨matcher, (accessor.getD matcher.accessor).flatten, policy, settings.logBindings,
    threshold⟩

/-- Flattens a document in a role, which an error tells. -/
def flattenAs (setup : Setup) (role : String) (document : Value) (context : Option Value) :
    Run (List Value) :=
  match setup.flatten document context with
  | .error (.normalization message _) =>
    ⟨[.line ⟨Run.logWriter, .error, "Normalization of " ++ role ++ " failed: " ++ message⟩],
      .error (.normalization message role)⟩
  | flattened => Traced.ofExcept flattened

/-- Flattens the patterns of labelled registrations. All are attempted, and the first error
counts. -/
def flattenPatterns (setup : Setup) (context : Option Value) :
    List (String × Registration) → Run (List (List Value))
  | [] => return []
  | (label, registration) :: rest =>
    ((setup.flattenAs label registration.pattern context).both
      (setup.flattenPatterns context rest)).map fun (pattern, patterns) => pattern :: patterns

/-- Goes through events, calling an action with every binding and noting every fault. -/
def deliver (setup : Setup) (label : String) (action : Action) (earlier : Nat) :
    List Event → Run Outcome
  | [] => return ⟨0, []⟩
  | .fault error :: rest => do
    Run.log .warning (label ++ ": enumeration fault: " ++ error.described)
    let outcome ← setup.deliver label action earlier rest
    return ⟨outcome.delivered, error :: outcome.faults⟩
  | .binding binding :: rest => do
    if setup.logBindings then
      Run.log .debug (label ++ ": " ++ binding.toValue.literal)
    action.call earlier binding
    let outcome ← setup.deliver label action (earlier + 1) rest
    return ⟨outcome.delivered + 1, outcome.faults⟩

/-- Matches one pattern and delivers what it is matched by. An error of the enumeration comes after
everything that was enumerated before it. -/
def matchOne (setup : Setup) (graph : List Value) (label : String) (registration : Registration)
    (pattern : List Value) (earlier : Nat) : Run Outcome := do
  let source ← (setup.matcher.matchPattern (.list graph) (.list pattern)
    registration.variableNames).retraced .line
  if setup.threshold.shows .debug then
    let placed := source.toDag
    Run.log .debug (label ++ " compiled to " ++
      toString (placed.result.expressionCount placed.place) ++ " expressions")
  let seen := (source.walk setup.matcher.equality).observe
  let outcome ← setup.deliver label registration.action earlier seen.elements
  match seen.error with
  | some error => Traced.ofExcept (.error error)
  | none => return outcome

/-- Matches patterns one after the other and adds what comes of each to a report. After a fault the
policy `first` skips the patterns that follow. -/
def matchAll (setup : Setup) (graph : List Value) :
    List ((String × Registration) × List Value) → Report → List Delivery → Run Report
  | [], report, _ => return report
  | ((label, registration), pattern) :: rest, report, history =>
    if setup.policy = .first ∧ report.faults ≠ [] then
      setup.matchAll graph rest { report with skipped := report.skipped ++ [label] } history
    else
      let turn := setup.matchOne graph label registration pattern
        (registration.action.callsIn history)
      do
        let outcome ← turn
        setup.matchAll graph rest
          { report with
            delivered := report.delivered.put label outcome.delivered
            faults := report.faults ++ outcome.faults.map fun fault => (label, fault) }
          (history ++ turn.deliveries)

/-- The role of the document. -/
def documentRole : String := "input"

/-- Flattens a document, without a context of its own, and the patterns of registrations, and
matches the patterns. -/
def run (setup : Setup) (registry : Registry) (history : List Delivery) (document : Value)
    (context : Option Value) : Run Report := do
  let labelled := registry.labelled
  let (graph, patterns) ← (setup.flattenAs documentRole document none).both
    (setup.flattenPatterns context labelled)
  Run.log .info ("Matching " ++ toString labelled.length ++ " patterns against " ++
    toString graph.length ++ " subjects")
  let report ← setup.matchAll graph (labelled.zip patterns) ⟨setup.policy, [], [], []⟩ history
  Run.log .info ("Delivered " ++ toString report.total ++ " bindings, " ++
    toString report.faults.length ++ " faults")
  return report

end Setup

end GraphPattern
