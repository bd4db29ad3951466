import GraphPattern.Proofs.Delivery

/-!
# The accounts of a run

A run gives every registration its turn, in order. A turn has a label, an action
and the events of matching a pattern; each of its bindings is a call of the
action, and each of its faults is noted. The fault policy decides which turns are
taken: all of them, or under the policy `first` those up to the first with a
fault. Then the run makes the calls of the taken turns one after the other, and
if one of them fails, the run ends with its error.

Main statement: this is what every run does whose documents can be flattened and
whose patterns can be matched. If no call fails, the report lists the taken turns
with the number of their calls, their faults, and the labels of the other turns.
-/

namespace GraphPattern

namespace Run

variable {α β : Type}

/-- What is left of a computation without its log: its deliveries and its end. -/
def unlogged (run : Run α) : Traced Delivery α := ⟨run.deliveries, run.result⟩

/-- One computation after another without their logs. -/
theorem unlogged_bind (first : Run α) (next : α → Run β) :
    unlogged (first >>= next) = first.unlogged >>= fun value => (next value).unlogged := by
  rcases first with ⟨trace, _ | value⟩
  · rfl
  · have joined : (trace ++ (next value).trace).filterMap Activity.delivery? =
        trace.filterMap Activity.delivery? ++ (next value).deliveries := List.filterMap_append
    exact congrArg (Traced.mk · (next value).result) joined

/-- Nothing is left of a line. -/
theorem unlogged_log (level : LogLevel) (message : String) :
    unlogged (log level message) = pure () := rfl

/-- Logging a line or not makes no difference without the log. -/
theorem unlogged_logged (shown : Bool) (level : LogLevel) (message : String)
    (next : Unit → Run β) :
    unlogged (if shown = true then log level message >>= next else next ()) =
      (next ()).unlogged := by
  cases shown <;> rfl

/-- Of lines alone only the end is left. -/
theorem unlogged_retraced_line (logged : Logged α) :
    unlogged (logged.retraced .line) = Traced.ofExcept logged.result :=
  congrArg (Traced.mk · logged.result) (deliveries_retraced_line logged)

end Run

/-- A call of an action with a binding. -/
structure Call where
  /-- The action that is called. -/
  action : Action
  /-- The binding that it is called with. -/
  binding : Binding

namespace Call

/-- The delivery that a call makes, whether or not it fails. -/
def delivery (call : Call) : Delivery := ⟨call.action.number, call.binding⟩

/-- The error that a call ends with after what was delivered before, if it fails. -/
def failure? (call : Call) (history : List Delivery) : Option Error :=
  call.action.failure (call.action.callsIn history) call.binding

/-- Makes a call after what was delivered before. -/
def make (call : Call) (history : List Delivery) : Traced Delivery Unit :=
  ⟨[call.delivery], match call.failure? history with
    | some error => .error error
    | none => .ok ()⟩

/-- Makes calls one after the other, until one fails. -/
def makeAll : List Call → List Delivery → Traced Delivery Unit
  | [], _ => return
  | call :: rest, history => do
    call.make history
    makeAll rest (history ++ [call.delivery])

/-- No call fails if all are made one after the other. -/
def AllSucceed : List Call → List Delivery → Prop
  | [], _ => True
  | call :: rest, history =>
    call.failure? history = none ∧ AllSucceed rest (history ++ [call.delivery])

/-- Calling an action is a call, if the number of its earlier calls is that in the history. -/
theorem unlogged_call (action : Action) (history : List Delivery) (binding : Binding) :
    Run.unlogged (action.call (action.callsIn history) binding) =
      (Call.mk action binding).make history := by
  unfold Action.call make failure?
  cases action.failure (action.callsIn history) binding <;> rfl

/-- A call counts as one more of its action. -/
theorem callsIn_append_delivery (call : Call) (history : List Delivery) :
    call.action.callsIn (history ++ [call.delivery]) = call.action.callsIn history + 1 := by
  simp [Action.callsIn, delivery]

/-- Calls in front are made before those behind them. -/
theorem makeAll_append (front back : List Call) (history : List Delivery) :
    makeAll (front ++ back) history = (do
      makeAll front history
      makeAll back (history ++ front.map delivery)) := by
  induction front generalizing history with
  | nil => rw [List.nil_append, List.map_nil, List.append_nil, makeAll, pure_bind]
  | cons call rest ih =>
    rw [List.cons_append, makeAll, ih, makeAll, bind_assoc, List.map_cons, List.append_assoc,
      List.singleton_append]

/-- If all calls succeed, all are made. -/
theorem makeAll_of_allSucceed {calls : List Call} {history : List Delivery}
    (succeed : AllSucceed calls history) :
    makeAll calls history = ⟨calls.map delivery, .ok ()⟩ := by
  induction calls generalizing history with
  | nil => rfl
  | cons call rest ih =>
    rw [makeAll, ih succeed.2, make, succeed.1]
    rfl

/-- If making all calls succeeds, so does each of them. -/
theorem allSucceed_of_makeAll {calls : List Call} {history : List Delivery}
    (ended : (makeAll calls history).result = .ok ()) : AllSucceed calls history := by
  induction calls generalizing history with
  | nil => trivial
  | cons call rest ih =>
    rw [makeAll, Traced.result_bind, make] at ended
    rw [AllSucceed]
    cases failure : call.failure? history with
    | some error =>
      rw [failure] at ended
      cases ended
    | none =>
      rw [failure] at ended
      exact ⟨rfl, ih ended⟩

/-- The first call that fails is the last one made. -/
theorem makeAll_of_failure {made : List Call} {call : Call} {history : List Delivery}
    {error : Error} (succeed : AllSucceed made history)
    (failed : call.failure? (history ++ made.map delivery) = some error) (left : List Call) :
    makeAll (made ++ call :: left) history = ⟨(made ++ [call]).map delivery, .error error⟩ := by
  rw [makeAll_append, makeAll_of_allSucceed succeed, makeAll, make, failed, List.map_append]
  rfl

/-- Calls of actions that never fail succeed. -/
theorem allSucceed_of_forall {calls : List Call}
    (never : ∀ call ∈ calls, ∀ history, call.failure? history = none) (history : List Delivery) :
    AllSucceed calls history := by
  induction calls generalizing history with
  | nil => trivial
  | cons call rest ih =>
    rw [List.forall_mem_cons] at never
    exact ⟨never.1 history, ih never.2 _⟩

end Call

/-- The turn of a registration. -/
structure Turn where
  /-- The label of the registration. -/
  label : String
  /-- Its action. -/
  action : Action
  /-- The events of matching its pattern. -/
  events : List Event

namespace Turn

/-- The calls of a turn: its bindings, each given to the action. -/
def calls (turn : Turn) : List Call := (Event.bindings turn.events).map (Call.mk turn.action)

/-- The faults of a turn. -/
def faults (turn : Turn) : List Error := Event.faults turn.events

/-- How a policy divides turns into those that are taken and those that are skipped. -/
structure Divided (policy : FaultPolicy) (turns taken skipped : List Turn) : Prop where
  /-- The skipped turns are those behind the taken ones. -/
  split : turns = taken ++ skipped
  /-- Under the policy `first`, only the last taken turn can have faults. -/
  clean : policy = .first → ∀ turn ∈ taken.dropLast, turn.faults = []
  /-- Turns are skipped only under the policy `first`, behind a turn with a fault. -/
  stopped : skipped ≠ [] → policy = .first ∧ ∃ turn, taken.getLast? = some turn ∧ turn.faults ≠ []

namespace Divided

variable {policy : FaultPolicy} {turn : Turn} {rest taken skipped : List Turn}

/-- No turns are divided into none. -/
theorem nil : Divided policy [] [] [] := ⟨rfl, fun _ _ member => (nomatch member), (absurd rfl ·)⟩

/-- Under the policy `first`, a turn with a fault is the last one. -/
theorem stop (first : policy = .first) (faulty : turn.faults ≠ []) :
    Divided policy (turn :: rest) [turn] rest where
  split := rfl
  clean _ _ member := nomatch member
  stopped _ := ⟨first, turn, rfl, faulty⟩

/-- After any other turn the division goes on. -/
theorem go (going : ¬ (policy = .first ∧ turn.faults ≠ []))
    (later : Divided policy rest taken skipped) :
    Divided policy (turn :: rest) (turn :: taken) skipped where
  split := congrArg (turn :: ·) later.split
  clean first other member := by
    cases taken with
    | nil => cases member
    | cons next others =>
      rcases List.mem_cons.1 member with rfl | inRest
      · by_contra faulty
        exact going ⟨first, faulty⟩
      · exact later.clean first other inRest
  stopped skips := by
    obtain ⟨first, last, isLast, faulty⟩ := later.stopped skips
    refine ⟨first, last, ?_, faulty⟩
    rw [List.getLast?_cons, isLast, Option.getD_some]

/-- Under the policy `first`, a taken turn with a fault is the last taken one. -/
theorem getLast?_eq_of_faulty {turns : List Turn} (divided : Divided policy turns taken skipped)
    (first : policy = .first) (member : turn ∈ taken) (faulty : turn.faults ≠ []) :
    taken.getLast? = some turn := by
  have nonempty := List.ne_nil_of_mem member
  rw [← List.dropLast_concat_getLast nonempty, List.mem_append] at member
  rcases member with before | last
  · exact absurd (divided.clean first turn before) faulty
  · rw [List.getLast?_eq_some_getLast nonempty, List.mem_singleton.1 last]

end Divided

end Turn

namespace Report

/-- A report with further turns, of which some were taken and the others skipped. -/
def extended (report : Report) (taken skipped : List Turn) : Report where
  policy := report.policy
  delivered := report.delivered ++ taken.map fun turn => (turn.label, (turn.calls.length : Int))
  faults := report.faults ++ taken.flatMap fun turn => turn.faults.map fun fault =>
    (turn.label, fault)
  skipped := report.skipped ++ skipped.map Turn.label

/-- The report on turns, of which some were taken and the others skipped. -/
def ofTurns (policy : FaultPolicy) (taken skipped : List Turn) : Report :=
  extended ⟨policy, [], [], []⟩ taken skipped

/-- Nothing further changes nothing. -/
theorem extended_nil (report : Report) : report.extended [] [] = report := by
  simp [extended]

/-- Turns that are taken one after the other extend a report one after the other. -/
theorem extended_cons (report : Report) (turn : Turn) (taken skipped : List Turn) :
    report.extended (turn :: taken) skipped =
      (report.extended [turn] []).extended taken skipped := by
  simp [extended]

section Totals

variable (policy : FaultPolicy) (taken skipped : List Turn)

/-- The labels of a report are those of the taken turns and then those of the skipped ones. -/
theorem labels_ofTurns :
    Entries.keys (ofTurns policy taken skipped).delivered ++
        (ofTurns policy taken skipped).skipped =
      (taken ++ skipped).map Turn.label := by
  show ((taken.map fun turn => (turn.label, (turn.calls.length : Int))).map Prod.fst) ++
    skipped.map Turn.label = _
  rw [List.map_map, List.map_append]
  rfl

/-- The number that a report gives for a taken turn is that of its calls, if labels are
distinct. -/
theorem get?_delivered_ofTurns (distinct : ((taken ++ skipped).map Turn.label).Nodup) {turn : Turn}
    (member : turn ∈ taken) :
    Entries.get? (ofTurns policy taken skipped).delivered turn.label =
      some (turn.calls.length : Int) := by
  rw [← labels_ofTurns policy taken skipped] at distinct
  exact Entries.get?_of_mem (List.nodup_append.1 distinct).1 (List.mem_map_of_mem member)

/-- The total of a report is the number of all calls of the taken turns. -/
theorem total_ofTurns :
    (ofTurns policy taken skipped).total = (taken.flatMap Turn.calls).length := by
  show (taken.map fun turn => (turn.label, (turn.calls.length : Int))).foldr
    (fun entry others => entry.2 + others) 0 = _
  induction taken with
  | nil => rfl
  | cons turn rest ih =>
    rw [List.map_cons, List.foldr_cons, ih, List.flatMap_cons, List.length_append, Int.natCast_add]

end Totals

end Report

/-- The faults among the observed ones that the raised error carries: the first, the last or all. -/
def FaultPolicy.carried (policy : FaultPolicy) (faults : List Error) : List Error :=
  match policy with
  | .first => faults.head?.toList
  | .last => faults.getLast?.toList
  | .collect => faults

/-- An error is raised if a fault was observed, and carries the faults that the policy chooses. -/
theorem Report.raised?_eq (report : Report) :
    report.raised? = if report.faults = [] then none
      else some (.ofFaults (report.policy.carried (report.faults.map Prod.snd))) := by
  obtain ⟨policy, delivered, faults, skipped⟩ := report
  cases faults with
  | nil => cases policy <;> rfl
  | cons fault rest =>
    rw [if_neg (List.cons_ne_nil _ _)]
    cases policy with
    | first => rfl
    | collect => rfl
    | last =>
      show (((fault :: rest).getLast?.map Prod.snd).map fun error => Error.ofFaults [error]) =
        some (.ofFaults (((fault :: rest).map Prod.snd).getLast?.toList))
      rw [List.getLast?_map, List.getLast?_cons]
      rfl

namespace Setup

variable {setup : Setup}

/-- Going through events makes a call for every binding, and counts and notes what it should. -/
theorem unlogged_deliver (label : String) (action : Action) (events : List Event)
    (history : List Delivery) :
    Run.unlogged (setup.deliver label action (action.callsIn history) events) =
      (Call.makeAll ((Event.bindings events).map (Call.mk action)) history).map fun _ =>
        ⟨(Event.bindings events).length, Event.faults events⟩ := by
  induction events generalizing history with
  | nil => rfl
  | cons event rest ih =>
    cases event with
    | fault error =>
      unfold deliver
      rw [Run.unlogged_bind]
      show (setup.deliver label action (action.callsIn history) rest >>= fun outcome =>
        pure ⟨outcome.delivered, error :: outcome.faults⟩ : Run Outcome).unlogged = _
      rw [Run.unlogged_bind, ih, Traced.bind_map]
      exact Traced.bind_pure_map _ _
    | binding bound =>
      have counted : action.callsIn (history ++ [⟨action.number, bound⟩]) =
          action.callsIn history + 1 := Call.callsIn_append_delivery ⟨action, bound⟩ history
      have first : Event.bindings (.binding bound :: rest) = bound :: Event.bindings rest := rfl
      unfold deliver
      dsimp only
      rw [Run.unlogged_logged, Run.unlogged_bind, Call.unlogged_call, ← counted, first,
        List.map_cons, Call.makeAll, Traced.map_bind]
      congr 1
      funext _
      rw [Run.unlogged_bind, ih, Traced.bind_map]
      exact Traced.bind_pure_map _ _

/-- A labelled registration with its flattened pattern has a turn: building ends with a source that
can be walked through to the end, and its events are those of the turn. -/
structure HasTurn (setup : Setup) (graph : List Value) (item : (String × Registration) × List Value)
    (turn : Turn) : Prop where
  /-- The label is that of the registration. -/
  label : turn.label = item.1.1
  /-- The action is that of the registration. -/
  action : turn.action = item.1.2.action
  /-- The events are those of the source that is built. -/
  events : ∃ source,
    (setup.matcher.matchPattern (.list graph) (.list item.2) item.1.2.variableNames).result =
      .ok source ∧
    (source.walk setup.matcher.equality).Finishes ∧
    turn.events = (source.walk setup.matcher.equality).elements

variable {graph : List Value}

/-- Matching one pattern makes the calls of its turn. -/
theorem unlogged_matchOne {label : String} {registration : Registration} {pattern : List Value}
    {turn : Turn} (has : HasTurn setup graph ((label, registration), pattern) turn)
    (history : List Delivery) :
    Run.unlogged (setup.matchOne graph label registration pattern
        (registration.action.callsIn history)) =
      (Call.makeAll turn.calls history).map fun _ => ⟨turn.calls.length, turn.faults⟩ := by
  obtain ⟨sameLabel, sameAction, source, built, finishes, sameEvents⟩ := has
  have ends : (source.walk setup.matcher.equality).observe.error = none := finishes
  unfold matchOne Turn.calls Turn.faults
  rw [Run.unlogged_bind, Run.unlogged_retraced_line, built, Traced.ofExcept_ok_bind]
  dsimp only
  rw [Run.unlogged_logged, Run.unlogged_bind, unlogged_deliver, Traced.bind_map, ends, sameEvents,
    sameAction, List.length_map]
  exact Traced.bind_pure_map _ _

/-- Once turns are skipped, all that follow are. -/
theorem matchAll_of_stopped {items : List ((String × Registration) × List Value)} {report : Report}
    (stopped : setup.policy = .first ∧ report.faults ≠ []) (history : List Delivery) :
    setup.matchAll graph items report history =
      pure { report with skipped := report.skipped ++ items.map fun item => item.1.1 } := by
  induction items generalizing report with
  | nil =>
    rw [List.map_nil, List.append_nil]
    rfl
  | cons item rest ih =>
    obtain ⟨⟨label, registration⟩, pattern⟩ := item
    have later := @ih { report with skipped := report.skipped ++ [label] } stopped
    rw [matchAll, if_pos stopped, later, List.append_assoc]
    rfl

/-- The labels of registrations are those of their turns. -/
theorem labels_eq_of_hasTurn {items : List ((String × Registration) × List Value)}
    {turns : List Turn} (haveTurns : List.Forall₂ (HasTurn setup graph) items turns) :
    (items.map fun item => item.1.1) = turns.map Turn.label := by
  induction haveTurns with
  | nil => rfl
  | cons has later ih => rw [List.map_cons, List.map_cons, ih, has.label]

/-- A turn that is taken is followed by the other turns, with what it delivered in the history and
its count and faults in the report. -/
theorem unlogged_matchAll_cons {item : (String × Registration) × List Value}
    {rest : List ((String × Registration) × List Value)} {turn : Turn}
    (has : HasTurn setup graph item turn) {report : Report}
    (going : ¬ (setup.policy = .first ∧ report.faults ≠ []))
    (fresh : turn.label ∉ Entries.keys report.delivered) (history : List Delivery) :
    Run.unlogged (setup.matchAll graph (item :: rest) report history) =
      Call.makeAll turn.calls history >>= fun _ =>
        Run.unlogged (setup.matchAll graph rest (report.extended [turn] [])
          (history ++ turn.calls.map Call.delivery)) := by
  obtain ⟨⟨label, registration⟩, pattern⟩ := item
  obtain rfl : turn.label = label := has.label
  have made := unlogged_matchOne has history
  have noted : { report with
      delivered := report.delivered.put turn.label (turn.calls.length : Int)
      faults := report.faults ++ turn.faults.map fun fault => (turn.label, fault) } =
      report.extended [turn] [] := by
    rw [Entries.put_of_not_mem _ _ _ fresh]
    simp [Report.extended]
  rw [matchAll, if_neg going]
  dsimp only
  rw [Run.unlogged_bind, made, Traced.bind_map, noted]
  -- The later turns see a history only if the calls of this one succeed, and then it has them all.
  refine Traced.bind_congr_of_ok fun _ ended => ?_
  have all := Call.makeAll_of_allSucceed (Call.allSucceed_of_makeAll ended)
  have delivered : Run.deliveries (setup.matchOne graph turn.label registration pattern
      (registration.action.callsIn history)) = turn.calls.map Call.delivery := by
    have traces := congrArg Traced.trace made
    rw [all] at traces
    exact traces
  rw [delivered]

/-- Registrations have turns as far as the policy takes them: behind a turn that stops the run, only
labels matter. -/
inductive HaveTurns (setup : Setup) (graph : List Value) :
    List ((String × Registration) × List Value) → List Turn → Prop where
  /-- No registrations have no turns. -/
  | nil : HaveTurns setup graph [] []
  /-- The first turn has a fault, and the policy skips the others. -/
  | stop {item : (String × Registration) × List Value}
      {rest : List ((String × Registration) × List Value)} {turn : Turn} {turns : List Turn}
      (has : HasTurn setup graph item turn) (first : setup.policy = .first)
      (faulty : turn.faults ≠ [])
      (labels : (rest.map fun item => item.1.1) = turns.map Turn.label) :
      HaveTurns setup graph (item :: rest) (turn :: turns)
  /-- The first turn is followed by the others. -/
  | go {item : (String × Registration) × List Value}
      {rest : List ((String × Registration) × List Value)} {turn : Turn} {turns : List Turn}
      (has : HasTurn setup graph item turn) (going : ¬ (setup.policy = .first ∧ turn.faults ≠ []))
      (later : HaveTurns setup graph rest turns) :
      HaveTurns setup graph (item :: rest) (turn :: turns)

/-- If every registration has its turn, then so it is as far as the policy goes. -/
theorem haveTurns_of_forall {items : List ((String × Registration) × List Value)}
    {turns : List Turn} (haveTurns : List.Forall₂ (HasTurn setup graph) items turns) :
    HaveTurns setup graph items turns := by
  induction haveTurns with
  | nil => exact .nil
  | @cons item turn rest turns has later ih =>
    by_cases stops : setup.policy = .first ∧ turn.faults ≠ []
    · exact .stop has stops.1 stops.2 (labels_eq_of_hasTurn later)
    · exact .go has stops ih

/-- Matching patterns makes the calls of the turns that the policy takes, and reports on them. -/
theorem unlogged_matchAll {items : List ((String × Registration) × List Value)}
    {turns : List Turn} (haveTurns : HaveTurns setup graph items turns)
    {report : Report} (going : ¬ (setup.policy = .first ∧ report.faults ≠ []))
    (distinct : (Entries.keys report.delivered ++ turns.map Turn.label).Nodup)
    (history : List Delivery) :
    ∃ taken skipped, Turn.Divided setup.policy turns taken skipped ∧
      Run.unlogged (setup.matchAll graph items report history) =
        (Call.makeAll (taken.flatMap Turn.calls) history).map fun _ =>
          report.extended taken skipped := by
  induction haveTurns generalizing report history with
  | nil =>
    refine ⟨[], [], .nil, ?_⟩
    rw [Report.extended_nil]
    rfl
  | @stop item rest turn turns has first faulty labels =>
    have fresh : turn.label ∉ Entries.keys report.delivered := fun member =>
      (List.nodup_append.1 distinct).2.2 _ member _ List.mem_cons_self rfl
    refine ⟨[turn], turns, .stop first faulty, ?_⟩
    have noted : (report.extended [turn] []).faults ≠ [] := by
      simp [Report.extended, faulty]
    have skips : { report.extended [turn] [] with
        skipped := (report.extended [turn] []).skipped ++ rest.map fun item => item.1.1 } =
        report.extended [turn] turns := by
      rw [labels]
      simp [Report.extended]
    rw [unlogged_matchAll_cons has going fresh, matchAll_of_stopped ⟨first, noted⟩, skips,
      List.flatMap_singleton]
    exact Traced.bind_pure_map _ _
  | @go item rest turn turns has goes later ih =>
    have fresh : turn.label ∉ Entries.keys report.delivered := fun member =>
      (List.nodup_append.1 distinct).2.2 _ member _ List.mem_cons_self rfl
    -- The report so far has no faults under the policy `first`, so this turn alone decides.
    have still : ¬ (setup.policy = .first ∧ (report.extended [turn] []).faults ≠ []) := by
      rintro ⟨first, noted⟩
      have before : report.faults = [] := by
        by_contra faulty
        exact going ⟨first, faulty⟩
      have clean : turn.faults = [] := by
        by_contra faulty
        exact goes ⟨first, faulty⟩
      simp [Report.extended, before, clean] at noted
    have laterDistinct : (Entries.keys (report.extended [turn] []).delivered ++
        turns.map Turn.label).Nodup := by
      simpa [Report.extended, Entries.keys] using distinct
    obtain ⟨taken, skipped, divided, made⟩ :=
      ih still laterDistinct (history ++ turn.calls.map Call.delivery)
    refine ⟨turn :: taken, skipped, .go goes divided, ?_⟩
    rw [unlogged_matchAll_cons has going fresh, made, ← Report.extended_cons, List.flatMap_cons,
      Call.makeAll_append, Traced.map_bind]

/-- A document that can be flattened is, and nothing is logged. -/
theorem flattenAs_eq {role : String} {document : Value} {context : Option Value}
    {nodes : List Value} (flat : setup.flatten document context = .ok nodes) :
    setup.flattenAs role document context = pure nodes := by
  rw [flattenAs, flat]
  rfl

/-- Patterns that can be flattened are, and nothing is logged. -/
theorem flattenPatterns_eq {context : Option Value} {labelled : List (String × Registration)}
    {patterns : List (List Value)}
    (flats : List.Forall₂ (fun entry pattern => setup.flatten entry.2.pattern context = .ok pattern)
      labelled patterns) :
    setup.flattenPatterns context labelled = pure patterns := by
  induction flats with
  | nil => rfl
  | @cons entry pattern rest patterns flat flats ih =>
    obtain ⟨label, registration⟩ := entry
    rw [flattenPatterns, flattenAs_eq flat, ih]
    rfl

/-- If the document and all patterns can be flattened, then all that a run does apart from its log
is to match the pattern of each registration against the document. -/
theorem unlogged_run_of_flat {registry : Registry} (history : List Delivery) {document : Value}
    {context : Option Value} {patterns : List (List Value)}
    (flat : setup.flatten document none = .ok graph)
    (flats : List.Forall₂ (fun entry pattern => setup.flatten entry.2.pattern context = .ok pattern)
      registry.labelled patterns) :
    Run.unlogged (setup.run registry history document context) =
      Run.unlogged (setup.matchAll graph (registry.labelled.zip patterns)
        ⟨setup.policy, [], [], []⟩ history) := by
  have flattened : (setup.flattenAs documentRole document none).both
      (setup.flattenPatterns context registry.labelled) = pure (graph, patterns) := by
    rw [flattenAs_eq flat, flattenPatterns_eq flats]
    rfl
  unfold run
  dsimp only
  rw [flattened, pure_bind]
  dsimp only
  rw [Run.unlogged_bind, Run.unlogged_log, pure_bind, Run.unlogged_bind]
  exact bind_pure _

/-- A run makes the calls of the turns that the policy takes, and reports on them. -/
theorem unlogged_run {registry : Registry} (history : List Delivery) {document : Value}
    {context : Option Value} {patterns : List (List Value)} {turns : List Turn}
    (distinct : registry.labels.Nodup) (labels : turns.map Turn.label = registry.labels)
    (flat : setup.flatten document none = .ok graph)
    (flats : List.Forall₂ (fun entry pattern => setup.flatten entry.2.pattern context = .ok pattern)
      registry.labelled patterns)
    (haveTurns : HaveTurns setup graph (registry.labelled.zip patterns) turns) :
    ∃ taken skipped, Turn.Divided setup.policy turns taken skipped ∧
      Run.unlogged (setup.run registry history document context) =
        (Call.makeAll (taken.flatMap Turn.calls) history).map fun _ =>
          Report.ofTurns setup.policy taken skipped := by
  have started : ¬ (setup.policy = .first ∧ (⟨setup.policy, [], [], []⟩ : Report).faults ≠ []) :=
    fun stopped => stopped.2 rfl
  have fresh : (Entries.keys (⟨setup.policy, [], [], []⟩ : Report).delivered ++
      turns.map Turn.label).Nodup := by
    rw [labels]
    exact distinct
  obtain ⟨taken, skipped, divided, made⟩ := unlogged_matchAll haveTurns started fresh history
  exact ⟨taken, skipped, divided, (unlogged_run_of_flat history flat flats).trans made⟩

/-- A run keeps accounts. Let a registry come from operations, and let a document and all
patterns be flattened. Let every registration have its turn: its pattern is matched, and its source
can be walked through to the end. The policy then divides the turns into taken and skipped ones.

The run makes the calls of the taken turns, one after the other. If none of them fails, it ends with
the report on the turns; otherwise it ends with the error of the first that fails, which is the last
one made. In the report, the labels with a number and then the skipped ones are those of the
registry, which are distinct. Each number is that of the calls of the turn, the total is that of all
calls, and under the policy `first` all faults bear the label of the last taken turn. An error is
raised exactly if there are faults, and carries those that the policy chooses. -/
theorem run_accounts {operations : List Registry.Operation} {registry : Registry}
    (reached : Registry.after [] operations = registry) (history : List Delivery)
    {document : Value} {context : Option Value} {patterns : List (List Value)} {turns : List Turn}
    (flat : setup.flatten document none = .ok graph)
    (flats : List.Forall₂ (fun entry pattern => setup.flatten entry.2.pattern context = .ok pattern)
      registry.labelled patterns)
    (haveTurns : List.Forall₂ (HasTurn setup graph) (registry.labelled.zip patterns) turns) :
    ∃ taken skipped, Turn.Divided setup.policy turns taken skipped ∧
      let calls := taken.flatMap Turn.calls
      let report := Report.ofTurns setup.policy taken skipped
      let ended := setup.run registry history document context
      (Call.AllSucceed calls history →
        ended.result = .ok report ∧ ended.deliveries = calls.map Call.delivery) ∧
      (∀ made call left error, calls = made ++ call :: left → Call.AllSucceed made history →
        call.failure? (history ++ made.map Call.delivery) = some error →
        ended.result = .error error ∧ ended.deliveries = (made ++ [call]).map Call.delivery) ∧
      registry.labels.Nodup ∧
      Entries.keys report.delivered ++ report.skipped = registry.labels ∧
      (∀ turn ∈ taken, Entries.get? report.delivered turn.label = some (turn.calls.length : Int)) ∧
      report.total = calls.length ∧
      (setup.policy = .first → ∀ fault ∈ report.faults,
        ∃ turn, taken.getLast? = some turn ∧ fault.1 = turn.label) ∧
      report.raised? = if report.faults = [] then none
        else some (.ofFaults (setup.policy.carried (report.faults.map Prod.snd))) := by
  have distinct : registry.labels.Nodup :=
    reached ▸ Registry.nodup_labels_after [] operations List.nodup_nil
  have labels : turns.map Turn.label = registry.labels := by
    have zipped : (registry.labelled.zip patterns).map Prod.fst = registry.labelled :=
      List.map_fst_zip (Nat.le_of_eq flats.length_eq)
    rw [← labels_eq_of_hasTurn haveTurns, Registry.labels, ← zipped, List.map_map, zipped]
    rfl
  obtain ⟨taken, skipped, divided, unlogged⟩ :=
    unlogged_run history distinct labels flat flats (haveTurns_of_forall haveTurns)
  have ends : (taken ++ skipped).map Turn.label = registry.labels := by
    rw [← divided.split, labels]
  refine ⟨taken, skipped, divided, fun succeed => ?_,
    fun before call left error isNext succeed failed => ?_, distinct, ?_, fun turn member => ?_,
    Report.total_ofTurns _ _ _, fun first fault noted => ?_, Report.raised?_eq _⟩
  · rw [Call.makeAll_of_allSucceed succeed] at unlogged
    exact ⟨congrArg Traced.result unlogged, congrArg Traced.trace unlogged⟩
  · rw [isNext, Call.makeAll_of_failure succeed failed] at unlogged
    exact ⟨congrArg Traced.result unlogged, congrArg Traced.trace unlogged⟩
  · rw [Report.labels_ofTurns, ends]
  · exact Report.get?_delivered_ofTurns _ _ _ (ends ▸ distinct) member
  · obtain ⟨turn, member, inTurn⟩ := List.mem_flatMap.1 noted
    obtain ⟨error, among, rfl⟩ := List.mem_map.1 inTurn
    exact ⟨turn, divided.getLast?_eq_of_faulty first member (List.ne_nil_of_mem among), rfl⟩

/-- Three registrations after one was refused because of its label. The second has a fault, so under
the policy `first` the third is skipped. -/
theorem run_accounts_first :
    let node (name : String) : Value :=
      .object [("@id", .text name), ("p", .list [.object [("@id", .text "c")]])]
    let pattern (name : String) : Value :=
      .object [("@id", .text name), ("p", .list [.object [("@id", .text "?o")]])]
    let action (number : Nat) : Action := ⟨number, fun _ _ => none⟩
    let register (name label : String) (number : Nat) : Registry.Operation :=
      .register (.fields [("pattern", pattern name), ("vars", .list [.text "?o"]),
        ("name", .text label)] (.callable (action number)))
    let registry := Registry.after [] [register "b" "served" 0, register "a" "served" 1,
      register "a" "broken" 1, register "b" "left" 2]
    let matcher : Matcher := ⟨.failing "a" [.getValues], .sameTerm, "_:"⟩
    let setup : Setup :=
      ⟨matcher, Accessor.flattenStatic, .first, false, ⟨.text "WARNING", 30⟩⟩
    let turn (name label : String) (number : Nat) : Turn := ⟨label, action number,
      ((matcher.patternSource ["?o"] [node "a", node "b"] [pattern name]).walk .sameTerm).elements⟩
    let ended := setup.run registry [] (.list [node "a", node "b"]) none
    (∃ taken skipped,
      Turn.Divided .first [turn "b" "served" 0, turn "a" "broken" 1, turn "b" "left" 2] taken
        skipped ∧
      ended.result = .ok (.ofTurns .first taken skipped) ∧
      ended.deliveries = (taken.flatMap Turn.calls).map Call.delivery ∧
      Entries.keys (Report.ofTurns .first taken skipped).delivered ++
        (Report.ofTurns .first taken skipped).skipped = ["served", "broken", "left"]) ∧
    ended.result = .ok ⟨.first, [("served", 1), ("broken", 0)],
      [("broken", .access ⟨"unreadable node in get_values", .text "a", some (.text "p")⟩)],
      ["left"]⟩ ∧
    ended.deliveries.map (fun delivery => (delivery.action,
      (delivery.binding.get? "?o").bind identifierOf)) = [(0, some "c")] := by
  intro node pattern action register registry matcher setup turn ended
  have entered : registry.labelled = [("served", ⟨pattern "b", ["?o"], action 0, some "served"⟩),
      ("broken", ⟨pattern "a", ["?o"], action 1, some "broken"⟩),
      ("left", ⟨pattern "b", ["?o"], action 2, some "left"⟩)] := rfl
  have nodes : ∀ other ∈ [node "a", node "b"], other.isObject = true := by
    simp [node, Value.isObject]
  have total : EqualityTest.sameTerm.Total := fun first second => ⟨first.sameTerm second, rfl⟩
  have has : ∀ name label number, HasTurn setup [node "a", node "b"]
      ((label, ⟨pattern name, ["?o"], action number, some label⟩), [pattern name])
      (turn name label number) := by
    intro name label number
    have described : ∀ subject ∈ [pattern name], subject.isObject = true := by
      simp [pattern, Value.isObject]
    exact ⟨rfl, rfl, _,
      Matcher.result_matchPattern (Accessor.guarded_failing "a" [.getValues]) nodes described,
      Source.finishes_walk total _ (Matcher.known_patternSource _ _ _ _), rfl⟩
  have flats : List.Forall₂
      (fun entry pattern => setup.flatten entry.2.pattern none = .ok pattern)
      registry.labelled [[pattern "b"], [pattern "a"], [pattern "b"]] := by
    rw [entered]
    exact .cons rfl (.cons rfl (.cons rfl .nil))
  have haveTurns : List.Forall₂ (HasTurn setup [node "a", node "b"])
      (registry.labelled.zip [[pattern "b"], [pattern "a"], [pattern "b"]])
      [turn "b" "served" 0, turn "a" "broken" 1, turn "b" "left" 2] := by
    rw [entered]
    exact .cons (has _ _ _) (.cons (has _ _ _) (.cons (has _ _ _) .nil))
  have flat : setup.flatten (.list [node "a", node "b"]) none = .ok [node "a", node "b"] := rfl
  obtain ⟨taken, skipped, divided, made, _, _, labels, _⟩ :=
    run_accounts rfl [] flat flats haveTurns
  have succeed : Call.AllSucceed (taken.flatMap Turn.calls) [] := by
    apply Call.allSucceed_of_forall
    intro call member history
    obtain ⟨other, isTaken, inCalls⟩ := List.mem_flatMap.1 member
    obtain ⟨binding, _, rfl⟩ := List.mem_map.1 inCalls
    have never : ∀ other ∈ [turn "b" "served" 0, turn "a" "broken" 1, turn "b" "left" 2],
        ∀ earlier binding, other.action.failure earlier binding = none := by
      simp [turn, action]
    have inTurns := divided.split ▸ List.mem_append_left skipped isTaken
    exact never other inTurns _ _
  obtain ⟨result, deliveries⟩ := made succeed
  refine ⟨⟨taken, skipped, divided, result, deliveries, labels.trans rfl⟩, ?_, ?_⟩
  · subst ended setup matcher registry
    rfl
  · clear * -
    subst ended setup matcher registry
    decide +kernel

end Setup

end GraphPattern
