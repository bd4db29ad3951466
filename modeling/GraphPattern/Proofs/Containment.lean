import GraphPattern.Proofs.Accounting
import GraphPattern.Proofs.Catching

/-!
# Failures of an accessor in a run

An accessor is asked while sources are built, where each of its failures is
caught, and its comparison may be asked again while they are gone through, where
nothing is caught.

Main statement: if the comparisons that a run makes while it goes through sources
have answers, then no failure of the accessor ends it. The report tells of every
failure that shows, and everything beside the failures is delivered.
-/

namespace GraphPattern

/-- What is labelled in a registry is one of its registrations. -/
theorem Registry.mem_of_labelled {registry : Registry} {entry : String × Registration}
    (member : entry ∈ registry.labelled) : entry.2 ∈ registry := by
  obtain ⟨⟨registration, index⟩, placed, rfl⟩ := List.mem_map.1 member
  exact List.fst_mem_of_mem_zipIdx placed

/-- With distinct labels, the report tells under a label the faults of the turn that bears it. -/
theorem Report.mem_faults_ofTurns_iff {policy : FaultPolicy} {taken skipped : List Turn}
    (distinct : (taken.map Turn.label).Nodup) {turn : Turn} (member : turn ∈ taken)
    (fault : Error) :
    (turn.label, fault) ∈ (ofTurns policy taken skipped).faults ↔ fault ∈ turn.faults := by
  show (turn.label, fault) ∈ taken.flatMap (fun turn => turn.faults.map fun fault =>
    (turn.label, fault)) ↔ _
  rw [List.mem_flatMap]
  constructor
  · rintro ⟨other, otherMember, noted⟩
    obtain ⟨error, among, same⟩ := List.mem_map.1 noted
    obtain ⟨sameLabel, rfl⟩ := Prod.mk.inj same
    rwa [List.inj_on_of_nodup_map distinct member otherMember sameLabel.symm]
  · exact fun among => ⟨turn, member, List.mem_map_of_mem among⟩

namespace Setup

variable {setup : Setup} {graph : List Value}

/-- The source of a labelled registration with its flattened pattern. -/
def sourceOf (setup : Setup) (graph : List Value) (item : (String × Registration) × List Value) :
    Source :=
  setup.matcher.patternSource item.1.2.variableNames graph item.2

/-- The turn of a labelled registration with its flattened pattern: what going through its source
shows, until an error ends it. -/
def turnOf (setup : Setup) (graph : List Value) (item : (String × Registration) × List Value) :
    Turn :=
  ⟨item.1.1, item.1.2.action, ((setup.sourceOf graph item).walk setup.matcher.equality).elements⟩

/-- A run reaches a registration if its policy does not stop at one before it. -/
def Reaches (setup : Setup) (graph : List Value)
    (items : List ((String × Registration) × List Value))
    (item : (String × Registration) × List Value) : Prop :=
  ∃ front back, items = front ++ item :: back ∧
    (setup.policy = .first → ∀ earlier ∈ front, (setup.turnOf graph earlier).faults = [])

/-- Going through the source of a registration makes no comparison without an answer. -/
def Answered (setup : Setup) (graph : List Value) (item : (String × Registration) × List Value) :
    Prop :=
  ∀ pair ∈ ((setup.sourceOf graph item).walk setup.matcher.equality).observe.comparisons,
    ∃ truth, setup.matcher.equality pair.1 pair.2 = .ok truth

/-- Whether all comparisons have answers can be tried out. -/
theorem answered_iff (setup : Setup) (graph : List Value)
    (item : (String × Registration) × List Value) :
    setup.Answered graph item ↔
      (((setup.sourceOf graph item).walk setup.matcher.equality).observe.comparisons.all fun pair =>
        (setup.matcher.equality pair.1 pair.2).isOk) = true := by
  rw [List.all_eq_true]
  refine forall₂_congr fun pair _ => ?_
  cases setup.matcher.equality pair.1 pair.2 with
  | ok truth => exact ⟨fun _ => rfl, fun _ => ⟨truth, rfl⟩⟩
  | error error => exact ⟨fun ⟨_, given⟩ => (nomatch given), fun given => (nomatch given)⟩

instance (setup : Setup) (graph : List Value) (item : (String × Registration) × List Value) :
    Decidable (setup.Answered graph item) :=
  decidable_of_iff' _ (answered_iff setup graph item)

/-- If all comparisons have answers, the source is gone through to its end. -/
theorem Answered.finishes {item : (String × Registration) × List Value}
    (answered : setup.Answered graph item) :
    ((setup.sourceOf graph item).walk setup.matcher.equality).Finishes := by
  have known := Matcher.known_patternSource setup.matcher item.1.2.variableNames graph item.2
  exact Source.unbroken_walk setup.matcher.equality _ known answered

/-- If all comparisons have answers, all events of the source are those of the turn. -/
theorem Answered.events_turnOf {item : (String × Registration) × List Value}
    (answered : setup.Answered graph item) :
    (setup.turnOf graph item).events =
      (setup.sourceOf graph item).listing setup.matcher.equality :=
  (Source.follows_listing setup.matcher.equality _).2 answered.finishes

/-- A registration whose comparisons have answers has its turn. -/
theorem hasTurn_turnOf (guarded : setup.matcher.accessor.Guarded)
    (nodes : ∀ node ∈ graph, node.isObject = true)
    {item : (String × Registration) × List Value}
    (described : ∀ subject ∈ item.2, subject.isObject = true)
    (answered : setup.Answered graph item) :
    HasTurn setup graph item (setup.turnOf graph item) where
  label := rfl
  action := rfl
  events := ⟨_, Matcher.result_matchPattern guarded nodes described, answered.finishes, rfl⟩

/-- Registrations have turns as far as the policy takes them, if the comparisons of those that are
reached have answers. -/
theorem haveTurns_turnOf (guarded : setup.matcher.accessor.Guarded)
    (nodes : ∀ node ∈ graph, node.isObject = true)
    {items : List ((String × Registration) × List Value)}
    (described : ∀ item ∈ items, ∀ subject ∈ item.2, subject.isObject = true)
    (answered : ∀ item, setup.Reaches graph items item → setup.Answered graph item) :
    HaveTurns setup graph items (items.map (setup.turnOf graph)) := by
  induction items with
  | nil => exact .nil
  | cons item rest ih =>
    rw [List.forall_mem_cons] at described
    have first : setup.Reaches graph (item :: rest) item :=
      ⟨[], rest, rfl, fun _ _ member => (nomatch member)⟩
    have has := hasTurn_turnOf guarded nodes described.1 (answered item first)
    by_cases stops : setup.policy = .first ∧ (setup.turnOf graph item).faults ≠ []
    · refine .stop has stops.1 stops.2 ?_
      rw [List.map_map]
      rfl
    · refine .go has stops (ih described.2 fun later reached => answered later ?_)
      obtain ⟨front, back, split, clean⟩ := reached
      refine ⟨item :: front, back, congrArg (item :: ·) split, fun policy => ?_⟩
      have itemClean : (setup.turnOf graph item).faults = [] := by
        by_contra faulty
        exact stops ⟨policy, faulty⟩
      exact List.forall_mem_cons.2 ⟨itemClean, clean policy⟩

/-- A registration that is taken is reached. -/
theorem reaches_of_taken {items taken skipped : List ((String × Registration) × List Value)}
    (split : items = taken ++ skipped)
    (divided : Turn.Divided setup.policy (items.map (setup.turnOf graph))
      (taken.map (setup.turnOf graph)) (skipped.map (setup.turnOf graph)))
    {item : (String × Registration) × List Value} (member : item ∈ taken) :
    setup.Reaches graph items item := by
  obtain ⟨front, back, rfl⟩ := List.append_of_mem member
  refine ⟨front, back ++ skipped, by rw [split, List.append_assoc, List.cons_append],
    fun policy earlier before => ?_⟩
  refine divided.clean policy _ ?_
  rw [List.map_append, List.map_cons, List.dropLast_append_of_ne_nil (List.cons_ne_nil _ _)]
  exact List.mem_append_left _ (List.mem_map_of_mem before)

/-- No failure of an accessor ends a run whose comparisons have answers. Let a registry come
from operations, and let its actions never fail. Let the document and all patterns be flattened to
objects, and let the accessor fail on any questions, but only as accessors do.

Building the source of a pattern ends with a source then. The log tells of the failures in it, each
in a line of its own, and with any accessor that agrees where this one answers, the source is the
same but for these failures. If moreover the comparisons that are made while sources are gone
through have answers, the run ends with a report. The policy takes the registrations from the first
one on, as far as it goes. All bindings that the source of a taken one has beside its failures are
delivered, and under its label the report tells the errors of the failures that show: of all but
those on the left of a join without a binding on the right. -/
theorem access_failures_contained {operations : List Registry.Operation} {registry : Registry}
    (reached : Registry.after [] operations = registry)
    (never : ∀ registration ∈ registry, ∀ earlier binding,
      registration.action.failure earlier binding = none)
    (history : List Delivery) {document : Value} {context : Option Value}
    {patterns : List (List Value)} (guarded : setup.matcher.accessor.Guarded)
    (flat : setup.flatten document none = .ok graph) (nodes : ∀ node ∈ graph, node.isObject = true)
    (flats : List.Forall₂ (fun entry pattern => setup.flatten entry.2.pattern context = .ok pattern)
      registry.labelled patterns)
    (described : ∀ pattern ∈ patterns, ∀ subject ∈ pattern, subject.isObject = true) :
    let items := registry.labelled.zip patterns
    let ended := setup.run registry history document context
    (∀ item ∈ items,
      let build := setup.matcher.matchPattern (.list graph) (.list item.2) item.1.2.variableNames
      build.result = .ok (setup.sourceOf graph item) ∧
      List.Forall₂ Matcher.Caught build.trace (setup.sourceOf graph item).failures ∧
      ∀ other : Accessor, setup.matcher.accessor.AgreesWith other →
        Source.Mended (fun _ => True) (setup.sourceOf graph item)
          ({ setup.matcher with accessor := other }.patternSource item.1.2.variableNames graph
            item.2)) ∧
    ((∀ item, setup.Reaches graph items item → setup.Answered graph item) →
      ∃ taken skipped, items = taken ++ skipped ∧
        Turn.Divided setup.policy (items.map (setup.turnOf graph))
          (taken.map (setup.turnOf graph)) (skipped.map (setup.turnOf graph)) ∧
        ended.result = .ok (.ofTurns setup.policy (taken.map (setup.turnOf graph))
          (skipped.map (setup.turnOf graph))) ∧
        ended.deliveries = (taken.flatMap fun item => (setup.turnOf graph item).calls).map
          Call.delivery ∧
        ∀ item ∈ taken,
          (setup.turnOf graph item).events =
            (setup.sourceOf graph item).listing setup.matcher.equality ∧
          ∀ fault, (item.1.1, fault) ∈ (Report.ofTurns setup.policy
              (taken.map (setup.turnOf graph)) (skipped.map (setup.turnOf graph))).faults ↔
            fault ∈ (setup.sourceOf graph item).shownFailures setup.matcher.equality) := by
  intro items ended
  have zipped : items.map Prod.fst = registry.labelled :=
    List.map_fst_zip (Nat.le_of_eq flats.length_eq)
  have ofItem : ∀ item ∈ items, ∀ subject ∈ item.2, subject.isObject = true :=
    fun item member => described item.2 (List.of_mem_zip member).2
  refine ⟨fun item member => ?_, fun answered => ?_⟩
  · have built : (setup.matcher.matchPattern (.list graph) (.list item.2)
        item.1.2.variableNames).result = .ok (setup.sourceOf graph item) :=
      Matcher.result_matchPattern guarded nodes (ofItem item member)
    have records := Matcher.records_matchPattern setup.matcher item.1.2.variableNames (.list graph)
      (.list item.2)
    exact ⟨built, records.caught _ built, fun other agrees =>
      Matcher.mended_patternSource agrees _ nodes (ofItem item member)⟩
  · have distinct : registry.labels.Nodup :=
      reached ▸ Registry.nodup_labels_after [] operations List.nodup_nil
    have labels : (items.map (setup.turnOf graph)).map Turn.label = registry.labels := by
      rw [Registry.labels, ← zipped, List.map_map, List.map_map]
      rfl
    obtain ⟨takenTurns, skippedTurns, divided, made⟩ := unlogged_run history distinct labels flat
      flats (haveTurns_turnOf guarded nodes ofItem answered)
    obtain ⟨taken, skipped, split, rfl, rfl⟩ := List.map_eq_append_iff.1 divided.split
    have succeed : Call.AllSucceed ((taken.map (setup.turnOf graph)).flatMap Turn.calls)
        history := by
      apply Call.allSucceed_of_forall
      intro call called earlier
      obtain ⟨turn, isTaken, inCalls⟩ := List.mem_flatMap.1 called
      obtain ⟨item, member, rfl⟩ := List.mem_map.1 isTaken
      obtain ⟨binding, _, rfl⟩ := List.mem_map.1 inCalls
      have inItems : item ∈ items := split ▸ List.mem_append_left skipped member
      exact never _ (Registry.mem_of_labelled (List.of_mem_zip inItems).1) _ _
    rw [Call.makeAll_of_allSucceed succeed] at made
    refine ⟨taken, skipped, split, divided, congrArg Traced.result made, ?_, fun item member => ?_⟩
    · rw [← List.flatMap_map]
      exact congrArg Traced.trace made
    · have all := (answered item (reaches_of_taken split divided member)).events_turnOf
      have takenLabels : ((taken.map (setup.turnOf graph)).map Turn.label).Nodup := by
        rw [← labels, divided.split, List.map_append] at distinct
        exact (List.nodup_append.1 distinct).1
      refine ⟨all, fun fault => ?_⟩
      refine (Report.mem_faults_ofTurns_iff takenLabels (List.mem_map_of_mem member) fault).trans ?_
      rw [Turn.faults, all]
      exact Source.mem_faults_listing_iff _

/-- Two registrations under the policy `first`. One of two nodes can neither be read nor compared.
The first registration gets the match on the other node. Of the two failures on this one only one
shows, and the second registration is skipped. -/
theorem access_failures_contained_first :
    let named (name : String) : Value := .object [("@id", .text name)]
    let both (name value : String) : Value :=
      .object [("@id", .text name), ("p", .list [named value]), ("q", .list [named value])]
    let action : Action := ⟨0, fun _ _ => none⟩
    let register (label : String) : Registry.Operation :=
      .register (.fields [("pattern", both "?s" "?o"), ("vars", .list [.text "?s", .text "?o"]),
        ("name", .text label)] (.callable action))
    let registry := Registry.after [] [register "all", register "left"]
    let accessor := Accessor.failing "b" [.getValues, .compareValues]
    let setup : Setup := ⟨⟨accessor, accessor.compareValues, "_:"⟩, Accessor.flattenStatic, .first,
      false, ⟨.text "WARNING", 30⟩⟩
    let graph := [both "a" "c", both "b" "c"]
    let item (label : String) : (String × Registration) × List Value :=
      ((label, ⟨both "?s" "?o", ["?s", "?o"], action, some label⟩), [both "?s" "?o"])
    let ended := setup.run registry [] (.list graph) none
    (∃ taken skipped, [item "all", item "left"] = taken ++ skipped ∧
      ended.result = .ok (.ofTurns .first (taken.map (setup.turnOf graph))
        (skipped.map (setup.turnOf graph))) ∧
      ∀ taking ∈ taken, ∀ fault, (taking.1.1, fault) ∈ (Report.ofTurns .first
          (taken.map (setup.turnOf graph)) (skipped.map (setup.turnOf graph))).faults ↔
        fault ∈ (setup.sourceOf graph taking).shownFailures accessor.compareValues) ∧
    ended.result.toOption.map (fun report => (report.delivered,
        report.faults.map fun fault => (fault.1, fault.2.described), report.skipped)) =
      some ([("all", 1)], [("all", "GraphAccessError: unreadable node in get_values")],
        ["left"]) ∧
    ended.deliveries.map (fun delivery => (delivery.binding.get? "?s").bind Value.text?) =
      [some "a"] := by
  intro named both action register registry accessor setup graph item ended
  have entered : registry.labelled = [(item "all").1, (item "left").1] := rfl
  have nodes : ∀ node ∈ graph, node.isObject = true := by
    simp [graph, both, Value.isObject]
  have flats : List.Forall₂
      (fun entry pattern => setup.flatten entry.2.pattern none = .ok pattern)
      registry.labelled [[both "?s" "?o"], [both "?s" "?o"]] := by
    rw [entered]
    exact .cons rfl (.cons rfl .nil)
  have described : ∀ pattern ∈ [[both "?s" "?o"], [both "?s" "?o"]],
      ∀ subject ∈ pattern, subject.isObject = true := by
    simp [both, Value.isObject]
  have never : ∀ registration ∈ registry, ∀ earlier binding,
      registration.action.failure earlier binding = none := by
    have all : registry = [(item "all").1.2, (item "left").1.2] := rfl
    rw [all]
    simp [item, action]
  have answered : setup.Answered graph (item "all") := by
    clear * -
    subst setup accessor graph item action both named
    decide +kernel
  have faulty : (setup.turnOf graph (item "all")).faults.length = 1 := by
    clear * -
    subst setup accessor graph item action both named
    decide +kernel
  have flat : setup.flatten (.list graph) none = .ok graph := rfl
  obtain ⟨_, contained⟩ := access_failures_contained rfl never [] (Accessor.guarded_failing _ _)
    flat nodes flats described
  refine ⟨?_, ?_, ?_⟩
  · obtain ⟨taken, skipped, split, _, result, _, each⟩ := contained <| by
      rintro reached ⟨front, back, split, clean⟩
      have listed : [item "all", item "left"] = front ++ reached :: back := split
      rcases front with _ | ⟨first, front⟩
      · cases listed
        exact answered
      · have same : item "all" = first := (List.cons.inj listed).1
        have none := clean rfl first List.mem_cons_self
        rw [← same] at none
        rw [none] at faulty
        cases faulty
    exact ⟨taken, skipped, split, result, fun taking member => (each taking member).2⟩
  all_goals
    clear * -
    subst ended setup accessor registry graph register action both named
    decide +kernel

/-- Two runs under the policy `collect`, of accessors that fail only as accessors do. In the first,
the log tells of a failure that the report knows nothing of, because it stands on the left of a join
without a binding on the right. In the second, a comparison has no answer while a source is gone
through: the run ends with that error, and the second registration gets nothing, although there is a
match for it. -/
theorem access_failures_lost :
    let named (name : String) : Value := .object [("@id", .text name)]
    let both (name first second : String) : Value :=
      .object [("@id", .text name), ("p", .list [named first]), ("q", .list [named second])]
    let once (name value : String) : Value :=
      .object [("@id", .text name), ("r", .list [named value])]
    let register (pattern : Value) (label : String) : Registry.Operation :=
      .register (.fields [("pattern", pattern), ("vars", .list [.text "?s", .text "?o"]),
        ("name", .text label)] (.callable ⟨0, fun _ _ => none⟩))
    let setup (accessor : Accessor) : Setup :=
      ⟨⟨accessor, accessor.compareValues, "_:"⟩, accessor.flatten, .collect, false,
        ⟨.text "WARNING", 30⟩⟩
    let unread := Accessor.failing "a" [.getValues]
    let incomparable := Accessor.failing "c" [.compareValues]
    let graph := [both "a" "c" "c", once "b" "d"]
    let told (ended : Run Report) : (Entries Int × List String) ⊕ String :=
      match ended.result with
      | .ok report => .inl (report.delivered, report.faults.map (·.2.described))
      | .error error => .inr error.described
    let silent := (setup unread).run (Registry.after [] [register (both "?s" "?o" "d") "only"]) []
      (.list graph) none
    let escaped := (setup incomparable).run (Registry.after [] [register (both "?s" "?o" "?o")
      "twice", register (once "?s" "?o") "once"]) [] (.list graph) none
    (unread.Guarded ∧ incomparable.Guarded ∧ ∀ node ∈ graph, node.isObject = true) ∧
    ((setup unread).matcher.matchPattern (.list graph) (.list [both "?s" "?o" "d"])
        ["?s", "?o"]).trace.map (·.message) =
      ["Graph access failed while building _match_object: unreadable node in get_values"] ∧
    told silent = .inl ([("only", 0)], []) ∧
    told escaped = .inr "GraphAccessError: incomparable node" ∧ escaped.deliveries.length = 0 ∧
    (((setup incomparable).matcher.patternSource ["?s", "?o"] graph [once "?s" "?o"]).bindings
      incomparable.compareValues).length = 1 := by
  intro named both once register setup unread incomparable graph told silent escaped
  refine ⟨⟨Accessor.guarded_failing _ _, Accessor.guarded_failing _ _, ?_⟩, ?_⟩
  · simp [graph, both, once, Value.isObject]
  · subst escaped silent told graph incomparable unread setup register once both named
    decide +kernel

end Setup

end GraphPattern
