import GraphPattern.Proofs.Accounting
import GraphPattern.Proofs.History

/-!
# Flattening is all or nothing

A run flattens the document and then the pattern of every registration, and an
error of any of these ends it. Only then are patterns matched, each in the
flattened form of its own and against the flattened document. Registering
patterns comes even before that.

Main statement: if something cannot be flattened, the run ends with the error of
the first that cannot, which tells its role, and nothing is delivered. If
everything can, a registration gets nothing but bindings of its own source. And
if some request is refused, what comes of it does not depend on documents,
accessors or policies.
-/

namespace GraphPattern

/-- The error of flattening something in a role. -/
def Error.inRole (role : String) : Error → Error
  | .normalization message _ => .normalization message role
  | error => error

/-- Making calls one after the other makes them from the first one on. -/
theorem Call.trace_makeAll_isPrefix (calls : List Call) (history : List Delivery) :
    (makeAll calls history).trace <+: calls.map delivery := by
  induction calls generalizing history with
  | nil => exact List.prefix_rfl
  | cons call rest ih =>
    rw [makeAll, make]
    cases call.failure? history with
    | some error => exact List.cons_prefix_cons.2 ⟨rfl, List.nil_prefix⟩
    | none => exact List.cons_prefix_cons.2 ⟨rfl, ih (history ++ [call.delivery])⟩

namespace Setup

variable {setup : Setup}

/-- Something that a run flattens. -/
structure Input where
  /-- Its role, as an error tells it. -/
  role : String
  /-- What is flattened. -/
  document : Value
  /-- The context under which it is flattened. -/
  context : Option Value

/-- What a run flattens: the document without a context, and then the pattern of every registration
under the context of patterns. -/
def inputs (registry : Registry) (document : Value) (context : Option Value) : List Input :=
  ⟨documentRole, document, none⟩ ::
    registry.labelled.map fun (label, registration) => ⟨label, registration.pattern, context⟩

/-- The first of some inputs that cannot be flattened, and why. -/
inductive FirstUnreadable (setup : Setup) : List Input → Input → Error → Prop where
  /-- It comes first. -/
  | here {input : Input} {error : Error} {rest : List Input}
      (failed : setup.flatten input.document input.context = .error error) :
      FirstUnreadable setup (input :: rest) input error
  /-- It is the first behind one that can be flattened. -/
  | later {earlier : Input} {nodes : List Value} {rest : List Input} {input : Input} {error : Error}
      (flat : setup.flatten earlier.document earlier.context = .ok nodes)
      (behind : FirstUnreadable setup rest input error) :
      FirstUnreadable setup (earlier :: rest) input error

/-- Only one input is the first that cannot be flattened. -/
theorem FirstUnreadable.unique {inputs : List Input} {input other : Input}
    {error otherError : Error}
    (first : FirstUnreadable setup inputs input error)
    (second : FirstUnreadable setup inputs other otherError) :
    input = other ∧ error = otherError := by
  induction first with
  | here failed =>
    cases second with
    | here otherFailed => exact ⟨rfl, Except.error.inj (failed.symm.trans otherFailed)⟩
    | later flat behind => cases failed.symm.trans flat
  | later flat behind ih =>
    cases second with
    | here otherFailed => cases flat.symm.trans otherFailed
    | later otherFlat otherBehind => exact ih otherBehind

/-- Either some input is the first that cannot be flattened, or each can. -/
theorem firstUnreadable_or_flat (setup : Setup) (inputs : List Input) :
    (∃ input error, FirstUnreadable setup inputs input error) ∨
      ∀ input ∈ inputs, ∃ nodes, setup.flatten input.document input.context = .ok nodes := by
  induction inputs with
  | nil => exact .inr fun _ member => (nomatch member)
  | cons input rest ih =>
    cases flattened : setup.flatten input.document input.context with
    | error error => exact .inl ⟨input, error, .here flattened⟩
    | ok nodes =>
      rcases ih with ⟨first, error, behind⟩ | flat
      · exact .inl ⟨first, error, .later flattened behind⟩
      · exact .inr (List.forall_mem_cons.2 ⟨⟨nodes, flattened⟩, flat⟩)

/-- What cannot be flattened ends in an error that tells its role. -/
theorem result_flattenAs_of_error {role : String} {document : Value} {context : Option Value}
    {error : Error} (failed : setup.flatten document context = .error error) :
    (setup.flattenAs role document context).result = .error (error.inRole role) := by
  rw [flattenAs, failed]
  cases error <;> rfl

/-- What can be flattened is, whatever its role. -/
theorem result_flattenAs_of_ok {role : String} {document : Value} {context : Option Value}
    {nodes : List Value} (flat : setup.flatten document context = .ok nodes) :
    (setup.flattenAs role document context).result = .ok nodes := by
  rw [flattenAs, flat]
  rfl

/-- Of patterns that cannot all be flattened, the first that cannot decides how it ends. -/
theorem result_flattenPatterns {context : Option Value}
    {labelled : List (String × Registration)} {input : Input} {error : Error}
    (first : FirstUnreadable setup (labelled.map fun entry =>
      ⟨entry.1, entry.2.pattern, context⟩) input error) :
    (setup.flattenPatterns context labelled).result = .error (error.inRole input.role) := by
  induction labelled with
  | nil => cases first
  | cons entry rest ih =>
    obtain ⟨label, registration⟩ := entry
    rw [flattenPatterns, Traced.map, Traced.both]
    cases first with
    | here failed =>
      rw [result_flattenAs_of_error failed]
      rfl
    | later flat behind =>
      rw [result_flattenAs_of_ok flat, ih behind]
      rfl

/-- A run whose inputs cannot all be flattened ends with the error of the first that cannot. -/
theorem run_of_firstUnreadable {registry : Registry} (history : List Delivery) {document : Value}
    {context : Option Value} {input : Input} {error : Error}
    (first : FirstUnreadable setup (inputs registry document context) input error) :
    (setup.run registry history document context).result = .error (error.inRole input.role) ∧
      (setup.run registry history document context).deliveries = [] := by
  have failed : ((setup.flattenAs documentRole document none).both
      (setup.flattenPatterns context registry.labelled)).result =
        .error (error.inRole input.role) := by
    rw [Traced.both]
    cases first with
    | here failed =>
      rw [result_flattenAs_of_error failed]
      rfl
    | later flat behind =>
      rw [result_flattenAs_of_ok flat, result_flattenPatterns behind]
      rfl
  unfold run
  constructor
  · rw [Traced.result_bind, failed]
    rfl
  · rw [Run.deliveries_bind_of_error failed]
    show ((setup.flattenAs documentRole document none).trace ++
      (setup.flattenPatterns context registry.labelled).trace).filterMap Activity.delivery? = []
    rw [List.filterMap_append, List.append_eq_nil_iff]
    exact ⟨deliveries_flattenAs documentRole document none,
      deliveries_flattenPatterns context registry.labelled⟩

/-- If all inputs of a run can be flattened, the document and every pattern have their nodes. -/
theorem flat_of_inputs {registry : Registry} {document : Value} {context : Option Value}
    (flat : ∀ input ∈ inputs registry document context,
      ∃ nodes, setup.flatten input.document input.context = .ok nodes) :
    ∃ (graph : List Value) (patterns : List (List Value)),
      setup.flatten document none = .ok graph ∧
      List.Forall₂ (fun entry pattern => setup.flatten entry.2.pattern context = .ok pattern)
        registry.labelled patterns := by
  rw [inputs, List.forall_mem_cons, List.forall_mem_map] at flat
  obtain ⟨⟨graph, ofDocument⟩, ofPatterns⟩ := flat
  choose! pattern isPattern using ofPatterns
  refine ⟨graph, registry.labelled.map pattern, ofDocument, ?_⟩
  rw [List.forall₂_map_right_iff, List.forall₂_same]
  exact isPattern

/-- What is delivered of a pattern that is matched against a graph: nothing, or the first of the
bindings of its source. -/
inductive Drawn (setup : Setup) (graph : List Value) :
    (String × Registration) × List Value → List Delivery → Prop where
  /-- Nothing is delivered. -/
  | nothing (item : (String × Registration) × List Value) : Drawn setup graph item []
  /-- Bindings are delivered from the first one on. -/
  | bindings {label : String} {registration : Registration} {pattern : List Value} {source : Source}
      {part : List Delivery}
      (built : (setup.matcher.matchPattern (.list graph) (.list pattern)
        registration.variableNames).result = .ok source)
      (front : part <+:
        (source.bindings setup.matcher.equality).map (Delivery.mk registration.action.number)) :
      Drawn setup graph ((label, registration), pattern) part

/-- What a registration was served with was drawn from its source. -/
theorem Served.drawn {graph : List Value} {report : Report}
    {item : (String × Registration) × List Value} {part : List Delivery}
    (served : Served setup graph report item part) : Drawn setup graph item part := by
  cases served with
  | skipped listed => exact .nothing _
  | matched built noted => exact .bindings built List.prefix_rfl

/-- Going through events delivers bindings from the first one on. -/
theorem deliveries_deliver (setup : Setup) (label : String) (action : Action)
    (events : List Event) (history : List Delivery) :
    (setup.deliver label action (action.callsIn history) events).deliveries <+:
      (Event.bindings events).map (Delivery.mk action.number) := by
  have made : (setup.deliver label action (action.callsIn history) events).deliveries =
      (Call.makeAll ((Event.bindings events).map (Call.mk action)) history).trace :=
    congrArg Traced.trace (unlogged_deliver label action events history)
  have begun := Call.trace_makeAll_isPrefix ((Event.bindings events).map (Call.mk action)) history
  rw [List.map_map] at begun
  rw [made]
  exact begun

/-- Matching a pattern delivers bindings of its source, however it ends. -/
theorem drawn_matchOne (setup : Setup) (graph : List Value) (label : String)
    (registration : Registration) (pattern : List Value) (history : List Delivery) :
    Drawn setup graph ((label, registration), pattern)
      (setup.matchOne graph label registration pattern
        (registration.action.callsIn history)).deliveries := by
  unfold matchOne
  cases built : ((setup.matcher.matchPattern (.list graph) (.list pattern)
      registration.variableNames).retraced Activity.line).result with
  | error error =>
    rw [Run.deliveries_bind_of_error built, Run.deliveries_retraced_line]
    exact .nothing _
  | ok source =>
    refine .bindings built ?_
    rw [Run.deliveries_bind_of_ok built, Run.deliveries_retraced_line, List.nil_append]
    dsimp only
    rw [Run.deliveries_logged, Run.deliveries_bind_of_silent]
    · exact deliveries_deliver setup label registration.action _ history
    · intro outcome
      split <;> rfl

/-- Matching patterns one after the other delivers for each of them bindings of its own source. -/
theorem drawn_matchAll (setup : Setup) (graph : List Value)
    (items : List ((String × Registration) × List Value)) (report : Report)
    (history : List Delivery) :
    ∃ parts : List (List Delivery),
      (setup.matchAll graph items report history).deliveries = parts.flatten ∧
      List.Forall₂ (Drawn setup graph) items parts := by
  induction items generalizing report history with
  | nil => exact ⟨[], rfl, .nil⟩
  | cons item rest ih =>
    obtain ⟨⟨label, registration⟩, pattern⟩ := item
    unfold matchAll
    by_cases stopped : setup.policy = .first ∧ report.faults ≠ []
    · rw [if_pos stopped]
      obtain ⟨parts, made, drawn⟩ := ih { report with skipped := report.skipped ++ [label] } history
      exact ⟨[] :: parts, made, .cons (.nothing _) drawn⟩
    · rw [if_neg stopped]
      dsimp only
      have own := drawn_matchOne setup graph label registration pattern history
      cases ended : (setup.matchOne graph label registration pattern
          (registration.action.callsIn history)).result with
      | error error =>
        rw [Run.deliveries_bind_of_error ended]
        refine ⟨_ :: rest.map fun _ => [], ?_, .cons own ?_⟩
        · simp
        · rw [List.forall₂_map_right_iff, List.forall₂_same]
          exact fun item _ => .nothing item
      | ok outcome =>
        rw [Run.deliveries_bind_of_ok ended]
        obtain ⟨parts, made, drawn⟩ := ih _ _
        exact ⟨_ :: parts, congrArg (_ ++ ·) made, .cons own drawn⟩

/-- A run whose inputs can all be flattened delivers for each registration bindings of its own
source. -/
theorem drawn_run {registry : Registry} (history : List Delivery) {document : Value}
    {context : Option Value} {graph : List Value} {patterns : List (List Value)}
    (flat : setup.flatten document none = .ok graph)
    (flats : List.Forall₂ (fun entry pattern => setup.flatten entry.2.pattern context = .ok pattern)
      registry.labelled patterns) :
    ∃ parts : List (List Delivery),
      (setup.run registry history document context).deliveries = parts.flatten ∧
      List.Forall₂ (Drawn setup graph) (registry.labelled.zip patterns) parts := by
  obtain ⟨parts, made, drawn⟩ := drawn_matchAll setup graph (registry.labelled.zip patterns)
    ⟨setup.policy, [], [], []⟩ history
  have same := congrArg Traced.trace (unlogged_run_of_flat history flat flats)
  exact ⟨parts, same.trans made, drawn⟩

/-- Flattening is all or nothing. Let a run be given a document and registrations. If some of
them cannot be flattened, the run ends with the error of the first that cannot, the document coming
before the patterns. An error of flattening tells the role, which is the label of the registration
for a pattern, and nothing is delivered. If all can be flattened, the run matches the pattern of
each registration against the document and does nothing else but log. What is delivered falls into
one part for each registration: bindings of the source that its own pattern has in the graph of the
document, from the first one on, and all that it is to be served with if the run ends with a report.

Requests to match of which one is invalid, or two have the same label, end with the error of the
first that is refused. Nothing is delivered then, and neither how documents are flattened nor
anything else makes a difference. -/
theorem flattening_all_or_nothing (setup : Setup) (registry : Registry) (history : List Delivery)
    (document : Value) (context : Option Value) :
    let ended := setup.run registry history document context
    ((∃ input ∈ inputs registry document context, ∃ error,
        setup.flatten input.document input.context = .error error) →
      ∃ input error, FirstUnreadable setup (inputs registry document context) input error ∧
        ended.result = .error (error.inRole input.role) ∧ ended.deliveries = []) ∧
    ((∀ input ∈ inputs registry document context, ∀ error,
        setup.flatten input.document input.context ≠ .error error) →
      ∃ (graph : List Value) (patterns : List (List Value)) (parts : List (List Delivery)),
        setup.flatten document none = .ok graph ∧
        List.Forall₂ (fun entry pattern => setup.flatten entry.2.pattern context = .ok pattern)
          registry.labelled patterns ∧
        Run.unlogged ended = Run.unlogged (setup.matchAll graph (registry.labelled.zip patterns)
          ⟨setup.policy, [], [], []⟩ history) ∧
        ended.deliveries = parts.flatten ∧
        List.Forall₂ (Drawn setup graph) (registry.labelled.zip patterns) parts ∧
        ∀ report, ended.result = .ok report →
          List.Forall₂ (Served setup graph report) (registry.labelled.zip patterns) parts) ∧
    ∀ requests : List Request, ¬ Session.Admissible requests →
      ∃ error, Session.FirstRefused [] requests error ∧
        ∃ refusal : Run Report, refusal.result = .error error ∧ refusal.deliveries = [] ∧
          ∀ (setup : Setup) (document : Value) (context : Option Value),
            Session.matchAll setup requests document context = refusal := by
  intro ended
  refine ⟨?_, fun fails => ?_, fun requests flawed => ?_⟩
  · rintro ⟨input, member, error, failed⟩
    rcases firstUnreadable_or_flat setup (inputs registry document context) with
      ⟨first, reason, unreadable⟩ | flat
    · exact ⟨first, reason, unreadable, run_of_firstUnreadable history unreadable⟩
    · obtain ⟨nodes, flat⟩ := flat input member
      cases failed.symm.trans flat
  · have flat : ∀ input ∈ inputs registry document context,
        ∃ nodes, setup.flatten input.document input.context = .ok nodes := by
      intro input member
      cases flattened : setup.flatten input.document input.context with
      | ok nodes => exact ⟨nodes, rfl⟩
      | error error => exact absurd flattened (fails input member error)
    obtain ⟨graph, patterns, ofDocument, ofPatterns⟩ := flat_of_inputs flat
    have matching := unlogged_run_of_flat history ofDocument ofPatterns
    cases finished : ended.result with
    | error error =>
      obtain ⟨parts, made, drawn⟩ := drawn_run history ofDocument ofPatterns
      exact ⟨graph, patterns, parts, ofDocument, ofPatterns, matching, made, drawn,
        fun report given => (nomatch given)⟩
    | ok report =>
      obtain ⟨sameGraph, samePatterns, parts, document', patterns', made, served⟩ := run_ok finished
      cases ofDocument.symm.trans document'
      have same : patterns = samePatterns := by
        refine List.right_unique_forall₂' ?_ ofPatterns patterns'
        intro entry first second isFirst isSecond
        exact Except.ok.inj (isFirst.symm.trans isSecond)
      subst same
      refine ⟨graph, patterns, parts, ofDocument, ofPatterns, matching, made,
        served.imp fun _ _ serving => serving.drawn, ?_⟩
      rintro _ ⟨⟩
      exact served
  · obtain ⟨error, first⟩ := Session.firstRefused_of_not_admissible flawed
    exact ⟨error, first, Session.matchAll_of_firstRefused first⟩

/-- Of three patterns, the second and the third cannot be flattened. The run tells the label of the
second and delivers nothing, although there is a match of the first. Two requests for one label are
refused with any document. -/
theorem flattening_all_or_nothing_second :
    let node : Value := .object [("@id", .text "a"), ("p", .list [.object [("@id", .text "c")]])]
    let pattern : Value :=
      .object [("@id", .text "a"), ("p", .list [.object [("@id", .text "?o")]])]
    let registration (pattern : Value) (name : Option String) : Registration :=
      ⟨pattern, ["?o"], ⟨0, fun _ _ => none⟩, name⟩
    let broken : Value := .text "broken"
    let setup : Setup := ⟨⟨.static, .sameTerm, "_:"⟩, Accessor.flattenStatic, .last, false,
      ⟨.text "WARNING", 30⟩⟩
    let failed := setup.run [registration pattern none, registration broken none,
      registration broken (some "third")] [] (.list [node]) none
    let served := setup.run [registration pattern none] [] (.list [node]) none
    let request : Request :=
      .keywords [("@pattern", pattern), ("@name", .text "same")] (.callable ⟨0, fun _ _ => none⟩)
    (failed.result = .error (.normalization "unparseable document" "match[1]") ∧
      failed.deliveries = []) ∧
    (∃ source, (setup.matcher.matchPattern (.list [node]) (.list [pattern]) ["?o"]).result =
        .ok source ∧
      served.deliveries = (source.bindings .sameTerm).map (Delivery.mk 0)) ∧
    served.deliveries.map (fun delivery => (delivery.binding.get? "?o").bind identifierOf) =
      [some "c"] ∧
    ∃ error, ∀ document,
      (Session.matchAll setup [request, request] document none).result = .error error := by
  intro node pattern registration broken setup failed served request
  obtain ⟨failing, _, refusing⟩ := flattening_all_or_nothing setup
    [registration pattern none, registration broken none, registration broken (some "third")] []
    (.list [node]) none
  obtain ⟨_, serving, _⟩ := flattening_all_or_nothing setup [registration pattern none] []
    (.list [node]) none
  refine ⟨?_, ?_, ?_, ?_⟩
  · have unreadable : FirstUnreadable setup
        (inputs [registration pattern none, registration broken none,
          registration broken (some "third")] (.list [node]) none)
        ⟨"match[1]", broken, none⟩ (.normalization "unparseable document" "input") :=
      .later rfl (.later rfl (.here rfl))
    obtain ⟨input, error, first, result, silent⟩ := failing
      ⟨⟨"match[1]", broken, none⟩, .tail _ (.tail _ (.head _)), _, rfl⟩
    obtain ⟨rfl, rfl⟩ := unreadable.unique first
    exact ⟨result, silent⟩
  · have ok : served.result = .ok ⟨.last, [("match[0]", 1)], [], []⟩ := by
      subst served setup registration
      rfl
    have flattens : ∀ input ∈ inputs [registration pattern none] (.list [node]) none,
        ∀ error, setup.flatten input.document input.context ≠ .error error :=
      List.forall_mem_cons.2 ⟨fun _ given => (nomatch given),
        List.forall_mem_cons.2 ⟨fun _ given => (nomatch given), fun _ member => (nomatch member)⟩⟩
    obtain ⟨graph, patterns, parts, flat, flats, _, made, _, ended⟩ := serving flattens
    have all := ended _ ok
    cases flat
    rcases flats with _ | ⟨flat, _ | _⟩
    cases flat
    rcases all with _ | ⟨one, _ | _⟩
    cases one with
    | skipped listed => cases listed
    | @matched _ _ _ source built _ =>
      exact ⟨source, built, made.trans (List.append_nil _)⟩
  · clear * -
    subst served setup registration pattern node
    decide +kernel
  · have valid : Registration.ofRequest request =
        .ok ⟨pattern, [], ⟨0, fun _ _ => none⟩, some "same"⟩ := rfl
    have clash (registration : Registration) (named : registration.name = some "same") :
        ¬ (Registry.labels [registration, registration]).Nodup := by
      obtain ⟨_, _, _, name⟩ := registration
      cases named
      simp [Registry.labels, Registry.labelled, Registration.label]
    have flawed : ¬ Session.Admissible [request, request] := by
      rintro ⟨registry, valids, distinct⟩
      rcases valids with _ | ⟨first, _ | ⟨second, _ | _⟩⟩
      cases valid.symm.trans first
      cases valid.symm.trans second
      exact clash _ rfl distinct
    obtain ⟨error, _, refusal, failed, _, refused⟩ := refusing _ flawed
    refine ⟨error, fun document => ?_⟩
    rw [refused, failed]

end Setup

end GraphPattern
