import GraphPattern.FaultPolicy

/-!
# Reports

What a run tells at its end: how many bindings each pattern delivered, which
faults were observed, and which patterns were skipped. The fault policy decides
which of the faults stands for all of them, and which go into the error that a
caller can have raised.
-/

namespace GraphPattern

/-- The outcome of a run. -/
structure Report where
  /-- The policy of the run. -/
  policy : FaultPolicy
  /-- The number of delivered bindings by label, in the order of the patterns. A report that comes
  from elsewhere may state any number. -/
  delivered : Entries Int := []
  /-- The observed faults, each with the label of its pattern. -/
  faults : List (String × Error) := []
  /-- The labels of the patterns that were not enumerated. -/
  skipped : List String := []

namespace Report

/-- The number of all delivered bindings. -/
def total (report : Report) : Int :=
  report.delivered.foldr (fun entry others => entry.2 + others) 0

/-- Whether no fault was observed. -/
def faultless (report : Report) : Bool := report.faults.isEmpty

/-- The fault that is reported: under the policy `first` the first one, else the last one. -/
def reported? (report : Report) : Option Error :=
  match report.policy with
  | .first => report.faults.head?.map Prod.snd
  | .last | .collect => report.faults.getLast?.map Prod.snd

/-- The error that stands for the observed faults, if there are any: under the policy `collect` it
carries all of them, else the reported one. -/
def raised? (report : Report) : Option Error :=
  match report.policy with
  | .collect => if report.faultless then none else some (.ofFaults (report.faults.map Prod.snd))
  | .first | .last => report.reported?.map fun fault => .ofFaults [fault]

/-- The report as an object. -/
def toValue (report : Report) : Value :=
  .object [("policy", .text report.policy.name),
    ("ok", .bool report.faultless),
    ("delivered", .object (report.delivered.map fun (label, count) => (label, .int count))),
    ("total_bindings", .int report.total),
    ("faults", .list (report.faults.map fun (label, fault) =>
      .object [("match", .text label), ("error", .text fault.described)])),
    ("skipped", .list (report.skipped.map .text))]

end Report

end GraphPattern
