import GraphPattern.Proofs.Join
import GraphPattern.Proofs.Weakening
import GraphPattern.Run

/-!
# What a run delivers

A run that ends with a report has gone through its registrations one by one.
What it delivered falls into one part for each of them: nothing for one that
was skipped, and otherwise the bindings among the events of its source, in
order. The faults among these events are in the report under its label.

Main statement: with an accessor that sometimes fails, every part is made of
bindings that an accessor that agrees and never fails would have found, in
order, and a registration that was not skipped and has no fault in the report
was served with all of them.
-/

namespace GraphPattern

namespace Run

variable {α β : Type}

/-- A computation that fails leaves what it delivered. -/
theorem deliveries_bind_of_error {first : Run α} {error : Error}
    (failed : first.result = .error error) (next : α → Run β) :
    (first >>= next).deliveries = first.deliveries := by
  rw [deliveries, Traced.trace_bind_of_error first next error failed]
  rfl

/-- Behind what a computation delivers that succeeds stands what the next one delivers. -/
theorem deliveries_bind_of_ok {first : Run α} {value : α} (ended : first.result = .ok value)
    (next : α → Run β) :
    (first >>= next).deliveries = first.deliveries ++ (next value).deliveries := by
  rw [deliveries, Traced.trace_bind_of_ok first next value ended, List.filterMap_append]
  rfl

/-- What follows a computation and delivers nothing does not count. -/
theorem deliveries_bind_of_silent {next : α → Run β} (first : Run α)
    (silent : ∀ value, (next value).deliveries = []) :
    (first >>= next).deliveries = first.deliveries := by
  cases ended : first.result with
  | error error => exact deliveries_bind_of_error ended next
  | ok value => rw [deliveries_bind_of_ok ended, silent, List.append_nil]

/-- If one computation after another succeeds, both do, and what they deliver stands in order. -/
theorem ok_of_bind {first : Run α} {next : α → Run β} {value : β}
    (ended : (first >>= next).result = .ok value) :
    ∃ middle, first.result = .ok middle ∧ (next middle).result = .ok value ∧
      (first >>= next).deliveries = first.deliveries ++ (next middle).deliveries := by
  obtain ⟨middle, started, finished⟩ := Traced.ok_of_result_bind ended
  exact ⟨middle, started, finished, deliveries_bind_of_ok started next⟩

/-- If carrying out two computations succeeds, both do, and what they deliver stands in order. -/
theorem ok_of_both {first : Run α} {second : Run β} {values : α × β}
    (ended : (first.both second).result = .ok values) :
    first.result = .ok values.1 ∧ second.result = .ok values.2 ∧
      deliveries (first.both second) = first.deliveries ++ second.deliveries := by
  refine ⟨?_, ?_, List.filterMap_append⟩
  all_goals
    rcases first with ⟨_, _ | firstValue⟩
    · cases ended
    rcases second with ⟨_, _ | secondValue⟩
    · cases ended
    cases ended
    rfl

/-- Logging a line or not does not change how a computation ends. -/
theorem result_logged (shown : Bool) (level : LogLevel) (message : String) (next : Unit → Run β) :
    (if shown = true then log level message >>= next else next ()).result = (next ()).result := by
  cases shown <;> rfl

/-- Logging a line or not does not change what a computation delivers. -/
theorem deliveries_logged (shown : Bool) (level : LogLevel) (message : String)
    (next : Unit → Run β) :
    (if shown = true then log level message >>= next else next ()).deliveries =
      (next ()).deliveries := by
  cases shown <;> rfl

/-- Lines alone deliver nothing. -/
theorem deliveries_retraced_line (logged : Logged α) :
    deliveries (logged.retraced .line) = [] := by
  rw [deliveries, Traced.retraced, List.filterMap_map, List.filterMap_eq_nil_iff]
  exact fun line _ => rfl

end Run

namespace Setup

variable {setup : Setup}

/-- A call that succeeds delivers its binding. -/
theorem call_ok {action : Action} {earlier : Nat} {binding : Binding}
    (ended : (action.call earlier binding).result = .ok ()) :
    (action.call earlier binding).deliveries = [⟨action.number, binding⟩] := by
  unfold Action.call at ended ⊢
  cases failure : action.failure earlier binding with
  | none => rfl
  | some error =>
    rw [failure] at ended
    cases ended

/-- Going through events without an error delivers all bindings, in order, and notes all faults. -/
theorem deliver_ok {label : String} {action : Action} {earlier : Nat} {events : List Event}
    {outcome : Outcome} (ended : (setup.deliver label action earlier events).result = .ok outcome) :
    (setup.deliver label action earlier events).deliveries =
        (Event.bindings events).map (Delivery.mk action.number) ∧
      outcome.delivered = (Event.bindings events).length ∧
      outcome.faults = Event.faults events := by
  induction events generalizing earlier outcome with
  | nil =>
    cases ended
    exact ⟨rfl, rfl, rfl⟩
  | cons event rest ih =>
    cases event with
    | fault error =>
      unfold deliver at ended ⊢
      obtain ⟨_, logged, later, made⟩ := Run.ok_of_bind ended
      obtain ⟨others, went, finished, othersMade⟩ := Run.ok_of_bind later
      cases finished
      obtain ⟨delivered, counted, noted⟩ := ih went
      refine ⟨?_, counted, congrArg (error :: ·) noted⟩
      rw [made, othersMade, delivered]
      exact List.append_nil _
    | binding bound =>
      unfold deliver at ended ⊢
      dsimp only at ended ⊢
      rw [Run.result_logged] at ended
      rw [Run.deliveries_logged]
      obtain ⟨_, called, later, made⟩ := Run.ok_of_bind ended
      obtain ⟨others, went, finished, othersMade⟩ := Run.ok_of_bind later
      cases finished
      obtain ⟨delivered, counted, noted⟩ := ih went
      refine ⟨?_, congrArg (· + 1) counted, noted⟩
      rw [made, othersMade, delivered, call_ok called]
      exact congrArg (_ :: ·) (List.append_nil _)

/-- Matching a pattern without an error delivers the bindings of its source, in order, and notes
the faults. -/
theorem matchOne_ok {graph pattern : List Value} {label : String} {registration : Registration}
    {earlier : Nat} {outcome : Outcome}
    (ended : (setup.matchOne graph label registration pattern earlier).result = .ok outcome) :
    ∃ source,
      (setup.matcher.matchPattern (.list graph) (.list pattern)
        registration.variableNames).result = .ok source ∧
      (setup.matchOne graph label registration pattern earlier).deliveries =
        (source.bindings setup.matcher.equality).map (Delivery.mk registration.action.number) ∧
      outcome.faults = Event.faults (source.walk setup.matcher.equality).elements := by
  unfold matchOne at ended ⊢
  obtain ⟨source, built, later, compiled⟩ := Run.ok_of_bind ended
  rw [compiled, Run.deliveries_retraced_line, List.nil_append]
  dsimp only at later ⊢
  rw [Run.result_logged] at later
  rw [Run.deliveries_logged]
  obtain ⟨reached, delivering, finishing, delivered⟩ := Run.ok_of_bind later
  obtain ⟨all, _, noted⟩ := deliver_ok delivering
  refine ⟨source, built, ?_⟩
  rw [delivered, all]
  cases broken : (source.walk setup.matcher.equality).observe.error with
  | some error =>
    rw [broken] at finishing
    cases finishing
  | none =>
    rw [broken] at finishing
    cases finishing
    exact ⟨List.append_nil _, noted⟩

/-- What a labelled registration with its flattened pattern was served with in a run that ended
with a report. -/
inductive Served (setup : Setup) (graph : List Value) (report : Report) :
    (String × Registration) × List Value → List Delivery → Prop where
  /-- It was skipped and got nothing. -/
  | skipped {label : String} {registration : Registration} {pattern : List Value}
      (listed : label ∈ report.skipped) :
      Served setup graph report ((label, registration), pattern) []
  /-- It got the bindings of its source, and the faults of the source are in the report. -/
  | matched {label : String} {registration : Registration} {pattern : List Value} {source : Source}
      (built : (setup.matcher.matchPattern (.list graph) (.list pattern)
        registration.variableNames).result = .ok source)
      (noted : ∀ fault ∈ Event.faults (source.walk setup.matcher.equality).elements,
        (label, fault) ∈ report.faults) :
      Served setup graph report ((label, registration), pattern)
        ((source.bindings setup.matcher.equality).map (Delivery.mk registration.action.number))

/-- Matching patterns one after the other without an error keeps what the report says and delivers
what each registration is served with, one part behind the other. -/
theorem matchAll_ok {graph : List Value} {items : List ((String × Registration) × List Value)}
    {report final : Report} {history : List Delivery}
    (ended : (setup.matchAll graph items report history).result = .ok final) :
    report.skipped ⊆ final.skipped ∧ report.faults ⊆ final.faults ∧
      ∃ parts : List (List Delivery),
        (setup.matchAll graph items report history).deliveries = parts.flatten ∧
        List.Forall₂ (Served setup graph final) items parts := by
  induction items generalizing report history with
  | nil =>
    cases ended
    exact ⟨fun _ => id, fun _ => id, [], rfl, .nil⟩
  | cons item rest ih =>
    obtain ⟨⟨label, registration⟩, pattern⟩ := item
    unfold matchAll at ended ⊢
    by_cases stopped : setup.policy = .first ∧ report.faults ≠ []
    · rw [if_pos stopped] at ended ⊢
      obtain ⟨skips, faults, parts, made, served⟩ := ih ended
      have listed : label ∈ final.skipped := skips (List.mem_append_right _ List.mem_cons_self)
      exact ⟨fun _ member => skips (List.mem_append_left _ member), faults, [] :: parts, made,
        .cons (.skipped listed) served⟩
    · rw [if_neg stopped] at ended ⊢
      obtain ⟨outcome, matched, later, turnMade⟩ := Run.ok_of_bind ended
      obtain ⟨source, built, delivered, noted⟩ := matchOne_ok matched
      obtain ⟨skips, faults, parts, made, served⟩ := ih later
      refine ⟨skips, fun _ member => faults (List.mem_append_left _ member), _ :: parts, ?_,
        .cons (.matched built fun fault member => ?_) served⟩
      · rw [turnMade, made, delivered, List.flatten_cons]
      · rw [← noted] at member
        have added := List.mem_map_of_mem (f := fun fault => (label, fault)) member
        exact faults (List.mem_append_right _ added)

/-- Flattening delivers nothing. -/
theorem deliveries_flattenAs (role : String) (document : Value) (context : Option Value) :
    (setup.flattenAs role document context).deliveries = [] := by
  unfold flattenAs
  split <;> rfl

/-- Flattening patterns delivers nothing. -/
theorem deliveries_flattenPatterns (context : Option Value)
    (labelled : List (String × Registration)) :
    (setup.flattenPatterns context labelled).deliveries = [] := by
  induction labelled with
  | nil => rfl
  | cons entry rest ih =>
    obtain ⟨label, registration⟩ := entry
    show ((setup.flattenAs label registration.pattern context).trace ++
      (setup.flattenPatterns context rest).trace).filterMap Activity.delivery? = []
    rw [List.filterMap_append, List.append_eq_nil_iff]
    exact ⟨deliveries_flattenAs label registration.pattern context, ih⟩

/-- Flattening in a role gives what flattening gives. -/
theorem flattenAs_ok {role : String} {document : Value} {context : Option Value}
    {nodes : List Value} (ended : (setup.flattenAs role document context).result = .ok nodes) :
    setup.flatten document context = .ok nodes := by
  unfold flattenAs at ended
  cases flattened : setup.flatten document context with
  | ok flat =>
    rw [flattened] at ended
    cases ended
    rfl
  | error error =>
    rw [flattened] at ended
    cases error <;> cases ended

/-- Flattening patterns gives what flattening each of them gives. -/
theorem flattenPatterns_ok {context : Option Value} {labelled : List (String × Registration)}
    {patterns : List (List Value)}
    (ended : (setup.flattenPatterns context labelled).result = .ok patterns) :
    List.Forall₂ (fun entry pattern => setup.flatten entry.2.pattern context = .ok pattern)
      labelled patterns := by
  induction labelled generalizing patterns with
  | nil =>
    cases ended
    exact .nil
  | cons entry rest ih =>
    obtain ⟨label, registration⟩ := entry
    unfold flattenPatterns at ended
    cases both : ((setup.flattenAs label registration.pattern context).both
        (setup.flattenPatterns context rest)).result with
    | error error =>
      rw [Traced.map, both] at ended
      cases ended
    | ok values =>
      rw [Traced.map, both] at ended
      cases ended
      obtain ⟨one, others, _⟩ := Run.ok_of_both both
      exact .cons (flattenAs_ok one) (ih others)

/-- A run that ends with a report serves its registrations one after the other. The document
and all patterns were flattened, and what was delivered falls into one part for each
registration. -/
theorem run_ok {registry : Registry} {history : List Delivery} {document : Value}
    {context : Option Value} {report : Report}
    (ended : (setup.run registry history document context).result = .ok report) :
    ∃ (graph : List Value) (patterns : List (List Value)) (parts : List (List Delivery)),
      setup.flatten document none = .ok graph ∧
      List.Forall₂ (fun entry pattern => setup.flatten entry.2.pattern context = .ok pattern)
        registry.labelled patterns ∧
      (setup.run registry history document context).deliveries = parts.flatten ∧
      List.Forall₂ (Served setup graph report) (registry.labelled.zip patterns) parts := by
  unfold run at ended ⊢
  dsimp only at ended ⊢
  obtain ⟨⟨graph, patterns⟩, flattened, announced, flattenedMade⟩ := Run.ok_of_bind ended
  obtain ⟨flat, flats, bothMade⟩ := Run.ok_of_both flattened
  obtain ⟨_, _, matched, announcedMade⟩ := Run.ok_of_bind announced
  obtain ⟨reached, matchedAll, closing, matchedMade⟩ := Run.ok_of_bind matched
  obtain ⟨_, _, parts, made, served⟩ := matchAll_ok matchedAll
  cases closing
  refine ⟨graph, patterns, parts, flattenAs_ok flat, flattenPatterns_ok flats, ?_, served⟩
  rw [flattenedMade, bothMade, deliveries_flattenAs, deliveries_flattenPatterns, announcedMade,
    matchedMade, made]
  exact List.append_nil _

/-- What a registration was served with, next to all that there is for it: some of it, in order, and
all of it unless the registration was skipped or has a fault in the report. -/
structure PartOf (report : Report) (label : String) (action : Action) (found : List Binding)
    (part : List Delivery) : Prop where
  /-- Nothing is delivered that is not there. -/
  some : part.Sublist (found.map (Delivery.mk action.number))
  /-- All is delivered if the report is clear of the registration. -/
  all : label ∉ report.skipped → (∀ fault, (label, fault) ∉ report.faults) →
    part = found.map (Delivery.mk action.number)

/-- What a registration was served with is a part of what an accessor that agrees and never fails
finds for it. -/
theorem Served.partOf {other : Accessor} (total : setup.matcher.equality.Total)
    (guarded : setup.matcher.accessor.Guarded)
    (agrees : setup.matcher.accessor.AgreesWith other) {graph pattern : List Value}
    (nodes : ∀ node ∈ graph, node.isObject = true)
    (described : ∀ subject ∈ pattern, subject.isObject = true) {report : Report} {label : String}
    {registration : Registration} {part : List Delivery}
    (served : Served setup graph report ((label, registration), pattern) part) :
    PartOf report label registration.action
      (({ setup.matcher with accessor := other }.patternSource registration.variableNames graph
        pattern).bindings setup.matcher.equality) part := by
  cases served with
  | skipped listed => exact ⟨List.nil_sublist _, fun ran _ => absurd listed ran⟩
  | matched built noted =>
    rw [Matcher.result_matchPattern guarded nodes described] at built
    cases built
    have weakened :=
      Matcher.weakened_elements total agrees registration.variableNames nodes described
    refine ⟨weakened.bindings.map _, fun _ clear => ?_⟩
    have clean := List.eq_nil_iff_forall_not_mem.2 fun fault member =>
      clear fault (noted fault member)
    rw [Source.bindings, weakened.whole clean]
    rfl

/-- A result without faults is the whole result, and faults only lose bindings. Let an accessor
fail on any questions, and another one fail on none and agree with the first wherever that answers.
With either, building the source of a pattern succeeds and going through it ends without an error.
The bindings found with the first are some of those found with the second, in order, and if there
is no fault then the events are the same. In a run that ends with a report, each registration is
served with a part of what the second accessor finds, and with all of it unless it was skipped or
has a fault in the report. -/
theorem whole_of_no_fault (matcher : Matcher) {other : Accessor} {answers : Accessor.Answers}
    (total : matcher.equality.Total) (guarded : matcher.accessor.Guarded)
    (gives : other.Gives answers) (agrees : matcher.accessor.AgreesWith other) :
    (∀ (graph pattern : List Value) (declared : List String),
      (∀ node ∈ graph, node.isObject = true) → (∀ subject ∈ pattern, subject.isObject = true) →
      ∃ weaker stronger : Source,
        (matcher.matchPattern (.list graph) (.list pattern) declared).result = .ok weaker ∧
        ({ matcher with accessor := other }.matchPattern (.list graph) (.list pattern)
          declared).result = .ok stronger ∧
        (weaker.walk matcher.equality).Finishes ∧ (stronger.walk matcher.equality).Finishes ∧
        (weaker.bindings matcher.equality).Sublist (stronger.bindings matcher.equality) ∧
        (Event.faults (weaker.walk matcher.equality).elements = [] →
          (weaker.walk matcher.equality).elements = (stronger.walk matcher.equality).elements)) ∧
    ∀ (setup : Setup), setup.matcher = matcher →
      ∀ (registry : Registry) (history : List Delivery) (document : Value)
        (context : Option Value) (report : Report),
      (setup.run registry history document context).result = .ok report →
      ∃ (graph : List Value) (patterns : List (List Value)) (parts : List (List Delivery)),
        setup.flatten document none = .ok graph ∧
        List.Forall₂ (fun entry pattern => setup.flatten entry.2.pattern context = .ok pattern)
          registry.labelled patterns ∧
        (setup.run registry history document context).deliveries = parts.flatten ∧
        ((∀ node ∈ graph, node.isObject = true) →
          List.Forall₂ (fun item part => (∀ subject ∈ item.2, subject.isObject = true) →
            ∃ stronger : Source,
              ({ matcher with accessor := other }.matchPattern (.list graph) (.list item.2)
                item.1.2.variableNames).result = .ok stronger ∧
              PartOf report item.1.1 item.1.2.action (stronger.bindings matcher.equality) part)
            (registry.labelled.zip patterns) parts) := by
  constructor
  · intro graph pattern declared nodes described
    have weakened := Matcher.weakened_elements total agrees declared nodes described
    have weaker := Matcher.known_patternSource matcher declared graph pattern
    have stronger := Matcher.known_patternSource { matcher with accessor := other } declared graph
      pattern
    exact ⟨_, _, Matcher.result_matchPattern guarded nodes described,
      Matcher.result_matchPattern gives.guarded nodes described,
      Source.finishes_walk total _ weaker, Source.finishes_walk total _ stronger,
      weakened.bindings, weakened.whole⟩
  · rintro setup rfl registry history document context report ended
    obtain ⟨graph, patterns, parts, input, inputs, made, served⟩ := run_ok ended
    refine ⟨graph, patterns, parts, input, inputs, made, fun nodes => ?_⟩
    refine served.imp fun item part serving described => ?_
    exact ⟨_, Matcher.result_matchPattern gives.guarded nodes described,
      serving.partOf total guarded agrees nodes described⟩

/-- A run in which the values of one of two nodes cannot be read delivers the match on the other
node, which is a part of what there is. -/
theorem whole_of_no_fault_failing :
    let node (name : String) : Value :=
      .object [("@id", .text name), ("p", .list [.object [("@id", .text "c")]])]
    let pattern : Value :=
      .object [("@id", .text "?s"), ("p", .list [.object [("@id", .text "c")]])]
    let registration : Registration := ⟨pattern, ["?s"], ⟨0, fun _ _ => none⟩, some "all"⟩
    let matcher : Matcher := ⟨.failing "a" [.hasValue], .sameTerm, "_:"⟩
    let setup : Setup :=
      ⟨matcher, Accessor.flattenStatic, .last, false, ⟨.text "WARNING", 30⟩⟩
    let ended := setup.run [registration] [] (.list [node "a", node "b"]) none
    (∃ weaker stronger : Source,
      (matcher.matchPattern (.list [node "a", node "b"]) (.list [pattern]) ["?s"]).result =
        .ok weaker ∧
      ({ matcher with accessor := .static }.matchPattern (.list [node "a", node "b"])
        (.list [pattern]) ["?s"]).result = .ok stronger ∧
      (weaker.bindings .sameTerm).Sublist (stronger.bindings .sameTerm)) ∧
    ∃ (report : Report) (stronger : Source), ended.result = .ok report ∧
      PartOf report "all" ⟨0, fun _ _ => none⟩ (stronger.bindings .sameTerm) ended.deliveries ∧
      ended.deliveries.map (fun delivery => (delivery.action, delivery.binding.keys,
        (delivery.binding.get? "?s").bind Value.text?)) = [(0, ["?s"], some "b")] := by
  intro node pattern registration matcher setup ended
  obtain ⟨found, served⟩ := whole_of_no_fault matcher (fun first second => ⟨_, rfl⟩)
    (Accessor.guarded_failing "a" [.hasValue])
    (Accessor.gives_reading Accessor.flattenStatic Value.sameTerm)
    (Accessor.failing_agreesWith_static "a" [.hasValue])
  have ok : ended.result = .ok ⟨.last, [("all", 1)],
      [("all", .access ⟨"unreadable node in has_value", .text "a", some (.text "p")⟩)], []⟩ := by
    subst ended setup matcher registration
    rfl
  have nodes : ∀ node' ∈ [node "a", node "b"], node'.isObject = true := by
    simp [node, Value.isObject]
  have described : ∀ subject ∈ [pattern], subject.isObject = true := by
    simp [pattern, Value.isObject]
  constructor
  · obtain ⟨weaker, stronger, weakerBuilt, strongerBuilt, _, _, sublist, _⟩ :=
      found [node "a", node "b"] [pattern] ["?s"] nodes described
    exact ⟨weaker, stronger, weakerBuilt, strongerBuilt, sublist⟩
  · obtain ⟨graph, patterns, parts, input, inputs, made, whole⟩ :=
      served setup rfl [registration] [] (.list [node "a", node "b"]) none _ ok
    cases input
    rcases inputs with _ | ⟨flat, _ | _⟩
    cases flat
    rcases whole nodes with _ | ⟨partOf, _ | _⟩
    obtain ⟨stronger, _, served⟩ := partOf described
    have same := made.trans (List.append_nil _)
    refine ⟨_, stronger, ok, same ▸ served, ?_⟩
    clear * -
    subst ended setup matcher registration pattern node
    decide +kernel

/-- A registration that a run skipped has no fault in the report and yet got nothing, although
there is a match for it. -/
theorem skipped_without_fault :
    let node (name : String) : Value :=
      .object [("@id", .text name), ("p", .list [.object [("@id", .text "c")]])]
    let pattern (name : String) : Value :=
      .object [("@id", .text name), ("p", .list [.object [("@id", .text "?o")]])]
    let registry : Registry := [⟨pattern "a", ["?o"], ⟨0, fun _ _ => none⟩, some "first"⟩,
      ⟨pattern "b", ["?o"], ⟨1, fun _ _ => none⟩, some "second"⟩]
    let matcher : Matcher := ⟨.failing "a" [.getValues], .sameTerm, "_:"⟩
    let setup : Setup :=
      ⟨matcher, Accessor.flattenStatic, .first, false, ⟨.text "WARNING", 30⟩⟩
    let ended := setup.run registry [] (.list [node "a", node "b"]) none
    matcher.equality.Total ∧ matcher.accessor.Guarded ∧
      Accessor.static.Gives (Accessor.read Value.sameTerm) ∧
      matcher.accessor.AgreesWith .static ∧
      (∃ report, ended.result = .ok report ∧ ∀ fault, ("second", fault) ∉ report.faults) ∧
      ended.deliveries = [] ∧
      ∃ stronger, ({ matcher with accessor := .static }.matchPattern
        (.list [node "a", node "b"]) (.list [pattern "b"]) ["?o"]).result = .ok stronger ∧
        (stronger.bindings .sameTerm).map (fun binding =>
          (binding.keys, (binding.get? "?o").bind identifierOf)) = [(["?o"], some "c")] := by
  intro node pattern registry matcher setup ended
  have answering : Accessor.static.Gives (Accessor.read Value.sameTerm) :=
    Accessor.gives_reading Accessor.flattenStatic Value.sameTerm
  have nodes : ∀ node' ∈ [node "a", node "b"], node'.isObject = true := by
    simp [node, Value.isObject]
  have described : ∀ subject ∈ [pattern "b"], subject.isObject = true := by
    simp [pattern, Value.isObject]
  have built : ({ matcher with accessor := .static }.matchPattern (.list [node "a", node "b"])
      (.list [pattern "b"]) ["?o"]).result = .ok _ :=
    Matcher.result_matchPattern answering.guarded nodes described
  have ok : ended.result = .ok ⟨.first, [("first", 0)],
      [("first", .access ⟨"unreadable node in get_values", .text "a", some (.text "p")⟩)],
      ["second"]⟩ := by
    subst ended setup matcher registry
    rfl
  refine ⟨fun first second => ⟨_, rfl⟩, Accessor.guarded_failing "a" [.getValues], answering,
    Accessor.failing_agreesWith_static "a" [.getValues], ⟨_, ok, ?_⟩, ?_, ⟨_, built, ?_⟩⟩
  · intro fault member
    have labels := List.mem_map_of_mem (f := Prod.fst) member
    have one : "second" ∈ ["first"] := labels
    exact absurd one (by decide)
  · subst ended setup matcher registry pattern node
    decide +kernel
  · clear * -
    subst matcher pattern node
    decide +kernel

end Setup

end GraphPattern
