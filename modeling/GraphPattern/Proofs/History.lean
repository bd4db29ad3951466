import GraphPattern.Session
import Mathlib.Data.List.Forall2
import Mathlib.Tactic.ClearExcept

/-!
# Histories of a session

A session is asked to register patterns, to take all of them out and to run them,
in any order. Labels are not stored: each is computed from the name and the place
of its registration, so a name can be spelled like the label of a place that is
taken before or only afterwards.

Main statement: whatever a session was asked before, the labels of its
registrations are distinct. A request that is accepted adds one registration
behind the others and changes none of their labels, one that is refused changes
nothing, and a valid one is refused exactly if its label is in use.

Where several requests are made at once, the first that is refused ends them, and
what is left of it depends on nothing but the requests.
-/

namespace GraphPattern

namespace Registry

/-- The label at a place is that of the registration there. -/
theorem getElem?_labels (registry : Registry) (index : Nat) :
    (labels registry)[index]? = (registry[index]?).map fun registration =>
      registration.label index := by
  rw [labels, labelled, List.map_map, List.getElem?_map, List.getElem?_zipIdx, Option.map_map]
  cases registry[index]? with
  | none => rfl
  | some registration => simp

/-- A label is in use exactly if the registration at some place has it. -/
theorem mem_labels_iff (registry : Registry) (label : String) :
    label ∈ labels registry ↔
      ∃ (index : Nat) (registration : Registration),
        registry[index]? = some registration ∧ registration.label index = label := by
  rw [List.mem_iff_getElem?]
  simp only [getElem?_labels, Option.map_eq_some_iff]

/-- Distinct labels tell places apart. -/
theorem eq_of_label_eq {registry : Registry} (distinct : (labels registry).Nodup) {i j : Nat}
    {first second : Registration} (atFirst : registry[i]? = some first)
    (atSecond : registry[j]? = some second) (same : first.label i = second.label j) : i = j := by
  have firstLabel : (labels registry)[i]? = some (first.label i) := by
    rw [getElem?_labels, atFirst]
    rfl
  have secondLabel : (labels registry)[j]? = some (second.label j) := by
    rw [getElem?_labels, atSecond]
    rfl
  obtain ⟨inBounds, _⟩ := List.getElem?_eq_some_iff.1 firstLabel
  refine (List.getElem?_inj inBounds distinct).1 ?_
  rw [firstLabel, secondLabel, same]

end Registry

namespace Session

/-- What can be asked of a session. -/
inductive Operation where
  /-- A pattern is to be registered. -/
  | register (request : Request)
  /-- All registrations are taken out. -/
  | clear
  /-- The registered patterns are run against a document. -/
  | run (document : Value) (context : Option Value)

/-- The session after an operation. -/
def perform (session : Session) : Operation → Session
  | .register request => (session.register request).1
  | .clear => session.clear
  | .run document context => (session.run document context).1

/-- The session after operations, one after the other. -/
def after (session : Session) (operations : List Operation) : Session :=
  operations.foldl perform session

/-- What registering tells about a registration that a registry does not have yet. -/
def announced (registry : Registry) (registration : Registration) :
    Run (String × Registration) := do
  let label := registration.label registry.length
  Run.log .debug ("Registered " ++ label ++ " with " ++
    toString registration.variableNames.length ++ " variables")
  return (label, registration)

section Requests

variable {session : Session} {request : Request} {registration : Registration}

/-- An invalid request changes nothing. -/
theorem register_of_invalid {error : Error}
    (invalid : Registration.ofRequest request = .error error) :
    session.register request = (session, Traced.ofExcept (.error error)) := by
  rw [register, invalid]
  rfl

/-- A valid request whose label is in use changes nothing. -/
theorem register_of_used (valid : Registration.ofRequest request = .ok registration)
    (used : registration.label session.registry.length ∈ session.registry.labels) :
    session.register request = (session, Traced.ofExcept
      (.error (.labelInUse (registration.label session.registry.length)))) := by
  have clash : session.registry.add registration =
      .error (.labelInUse (registration.label session.registry.length)) := if_pos used
  rw [register, valid]
  dsimp only [bind, Except.bind]
  rw [clash]

/-- A valid request whose label is new adds its registration behind the others. -/
theorem register_of_new (valid : Registration.ofRequest request = .ok registration)
    (new : registration.label session.registry.length ∉ session.registry.labels) :
    session.register request =
      ({ session with registry := session.registry ++ [registration] },
        announced session.registry registration) := by
  have added := (Registry.add_eq_ok_iff session.registry _ registration).2 ⟨new, rfl⟩
  rw [register, valid]
  dsimp only [bind, Except.bind]
  rw [added]
  rfl

end Requests

/-- An operation keeps labels distinct. -/
theorem nodup_labels_perform {session : Session} (operation : Operation)
    (distinct : session.registry.labels.Nodup) :
    (session.perform operation).registry.labels.Nodup := by
  cases operation with
  | register request =>
    rw [perform, registry_register]
    exact Registry.nodup_labels_after _ _ distinct
  | clear => exact List.nodup_nil
  | run document context => exact distinct

/-- Operations keep labels distinct. -/
theorem nodup_labels_of_operations {session : Session} (operations : List Operation)
    (distinct : session.registry.labels.Nodup) :
    (session.after operations).registry.labels.Nodup := by
  induction operations generalizing session with
  | nil => exact distinct
  | cons operation rest ih => exact ih (nodup_labels_perform operation distinct)

/-- Labels stay distinct, and registering is all or nothing. Let a session have been asked to
register patterns, to take them out and to run them, in whatever order. Then no two of its
registrations have the same label. If a request is accepted, its registration stands behind the
others, which keep their places and their labels. If it is refused, nothing is changed. An invalid
request is refused with what is wrong with it, and a valid one is refused exactly if the label that
its registration would have is in use. -/
theorem register_after_operations (setup : Setup) (operations : List Operation) :
    let session := Session.after ⟨setup, [], []⟩ operations
    (∀ (i j : Nat) (first second : Registration), session.registry[i]? = some first →
      session.registry[j]? = some second → first.label i = second.label j → i = j) ∧
    ∀ request : Request,
      let changed := (session.register request).1
      let ended := (session.register request).2.result
      (∀ label registration, ended = .ok (label, registration) →
        Registration.ofRequest request = .ok registration ∧
        changed = { session with registry := session.registry ++ [registration] } ∧
        changed.registry.labels = session.registry.labels ++ [label] ∧
        label = registration.label session.registry.length) ∧
      (∀ error, ended = .error error → changed = session) ∧
      (∀ error, Registration.ofRequest request = .error error → ended = .error error) ∧
      ∀ registration, Registration.ofRequest request = .ok registration →
        let label := registration.label session.registry.length
        (ended = .error (.labelInUse label) ∨ ended = .ok (label, registration)) ∧
        ((∃ error, ended = .error error) ↔
          ∃ (index : Nat) (earlier : Registration),
            session.registry[index]? = some earlier ∧ earlier.label index = label) := by
  intro session
  have distinct : session.registry.labels.Nodup :=
    nodup_labels_of_operations operations List.nodup_nil
  refine ⟨fun i j first second => Registry.eq_of_label_eq distinct, fun request => ?_⟩
  dsimp only
  cases valid : Registration.ofRequest request with
  | error error =>
    rw [register_of_invalid valid]
    refine ⟨fun label registration given => (nomatch given), fun error _ => rfl, ?_,
      fun registration given => (nomatch given)⟩
    rintro _ ⟨⟩
    rfl
  | ok registration =>
    by_cases used : registration.label session.registry.length ∈ session.registry.labels
    · rw [register_of_used valid used]
      refine ⟨fun label registration given => (nomatch given), fun error _ => rfl,
        fun error refused => (nomatch refused), ?_⟩
      rintro _ ⟨⟩
      exact ⟨.inl rfl, fun _ => (Registry.mem_labels_iff _ _).1 used, fun _ => ⟨_, rfl⟩⟩
    · rw [register_of_new valid used]
      refine ⟨?_, fun error failed => (nomatch failed), fun error refused => (nomatch refused), ?_⟩
      · rintro label other ⟨⟩
        exact ⟨rfl, rfl, Registry.labels_append _ _, rfl⟩
      · rintro other ⟨⟩
        refine ⟨.inr rfl, ?_, fun inUse => absurd ((Registry.mem_labels_iff _ _).2 inUse) used⟩
        rintro ⟨error, failed⟩
        cases failed

/-- After all was taken out, a session holds a registration without a name and one whose name is the
label of the next free place. What has no name, or an empty one, is refused then, because the label
of that place is in use. -/
theorem register_after_operations_place :
    let node : Value := .object [("@id", .text "?s")]
    let action : Action := ⟨0, fun _ _ => none⟩
    let request (name : String) : Request :=
      .keywords [("@pattern", node), ("@var", .list [.text "?s"]), ("@name", .text name)]
        (.callable action)
    let nameless : Request := .fields [("pattern", node)] (.callable action)
    let setup : Setup := ⟨⟨.static, .sameTerm, "_:"⟩, Accessor.flattenStatic, .last, false,
      ⟨.text "WARNING", 30⟩⟩
    let session := Session.after ⟨setup, [], []⟩ [.register (request "match[0]"), .clear,
      .register nameless, .register (request "match[0]"), .register (.keywords [] .absent),
      .register (request "match[2]")]
    let refusal (request : Request) : Option String :=
      match (session.register request).2.result with
      | .error error => some error.message
      | .ok _ => none
    session.registry.labels = ["match[0]", "match[2]"] ∧
    (session.register nameless).1 = session ∧
    refusal nameless = some "a match labelled 'match[2]' is already registered" ∧
    refusal (request "") = refusal nameless ∧ refusal (request "match[3]") = none ∧
    (session.register (request "match[3]")).1.registry.labels =
      ["match[0]", "match[2]", "match[3]"] := by
  intro node action request nameless setup session refusal
  obtain ⟨_, registering⟩ := register_after_operations setup [.register (request "match[0]"),
    .clear, .register nameless, .register (request "match[0]"),
    .register (.keywords [] .absent), .register (request "match[2]")]
  obtain ⟨_, unchanged, _, refused⟩ := registering nameless
  have used : (⟨node, [], action, none⟩ : Registration).label session.registry.length ∈
      session.registry.labels := by
    clear * -
    subst session nameless
    decide +kernel
  obtain ⟨error, failed⟩ := (refused ⟨node, [], action, none⟩ rfl).2.2
    ((Registry.mem_labels_iff _ _).1 used)
  refine ⟨?_, unchanged error failed, ?_⟩
  · clear * -
    subst session nameless
    decide +kernel
  · clear * -
    subst refusal session nameless
    decide +kernel

/-- A registry adds the registration that a valid request leads to. -/
theorem apply_register {registry : Registry} {request : Request} {registration : Registration}
    (valid : Registration.ofRequest request = .ok registration) :
    registry.apply (.register request) = registry.add registration := by
  rw [Registry.apply, valid]
  rfl

/-- The error of the first of some requests that a registry refuses, when those before it are
added. -/
inductive FirstRefused : Registry → List Request → Error → Prop where
  /-- It comes first. -/
  | here {registry : Registry} {request : Request} {error : Error} {rest : List Request}
      (refused : registry.apply (.register request) = .error error) :
      FirstRefused registry (request :: rest) error
  /-- It is the first behind one that is accepted. -/
  | later {registry changed : Registry} {request : Request} {error : Error} {rest : List Request}
      (accepted : registry.apply (.register request) = .ok changed)
      (behind : FirstRefused changed rest error) :
      FirstRefused registry (request :: rest) error

/-- Either some request is the first that is refused, or all are valid and lead to labels that
differ from each other and from those in use. -/
theorem firstRefused_or_valid (registry : Registry) (distinct : registry.labels.Nodup)
    (requests : List Request) :
    (∃ error, FirstRefused registry requests error) ∨
      ∃ added : Registry, List.Forall₂ (fun request registration =>
        Registration.ofRequest request = .ok registration) requests added ∧
        (Registry.labels (registry ++ added)).Nodup := by
  induction requests generalizing registry with
  | nil => exact .inr ⟨[], .nil, by rwa [List.append_nil]⟩
  | cons request rest ih =>
    cases applied : registry.apply (.register request) with
    | error error => exact .inl ⟨error, .here applied⟩
    | ok changed =>
      cases valid : Registration.ofRequest request with
      | error error =>
        rw [Registry.apply, valid] at applied
        cases applied
      | ok registration =>
        have added := (apply_register valid).symm.trans applied
        have still := Registry.nodup_labels_add registry changed registration distinct added
        rcases ih changed still with ⟨error, behind⟩ | ⟨others, valids, distinctAll⟩
        · exact .inl ⟨error, .later applied behind⟩
        · obtain ⟨_, rfl⟩ := (Registry.add_eq_ok_iff registry changed registration).1 added
          refine .inr ⟨registration :: others, .cons valid valids, ?_⟩
          rwa [List.append_assoc, List.singleton_append] at distinctAll

/-- A request that a registry refuses changes nothing. -/
theorem register_of_refused {session : Session} {request : Request} {error : Error}
    (refused : session.registry.apply (.register request) = .error error) :
    session.register request = (session, Traced.ofExcept (.error error)) := by
  cases valid : Registration.ofRequest request with
  | error invalid =>
    rw [Registry.apply, valid] at refused
    cases refused
    exact register_of_invalid valid
  | ok registration =>
    rw [apply_register valid, Registry.add] at refused
    by_cases used : registration.label session.registry.length ∈ session.registry.labels
    · rw [if_pos used] at refused
      cases refused
      exact register_of_used valid used
    · rw [if_neg used] at refused
      cases refused

/-- What registering does when a request is accepted depends on the registry alone. -/
theorem exists_register_of_accepted {registry changed : Registry} {request : Request}
    (accepted : registry.apply (.register request) = .ok changed) :
    ∃ registration : Registration, ∀ session : Session, session.registry = registry →
      session.register request =
        ({ session with registry := changed }, announced registry registration) := by
  cases valid : Registration.ofRequest request with
  | error error =>
    rw [Registry.apply, valid] at accepted
    cases accepted
  | ok registration =>
    rw [apply_register valid] at accepted
    obtain ⟨new, rfl⟩ := (Registry.add_eq_ok_iff registry changed registration).1 accepted
    refine ⟨registration, ?_⟩
    rintro session rfl
    exact register_of_new valid new

/-- Registering requests of which one is refused ends with its error, and what is left of it depends
on the registry alone. -/
theorem registerAll_of_firstRefused {registry : Registry} {requests : List Request} {error : Error}
    (first : FirstRefused registry requests error) :
    ∃ refusal : Run Unit, refusal.result = .error error ∧ refusal.deliveries = [] ∧
      ∀ session : Session, session.registry = registry →
        (session.registerAll requests).2 = refusal := by
  induction first with
  | @here registry request error rest refused =>
    refine ⟨⟨[], .error error⟩, rfl, rfl, ?_⟩
    rintro session rfl
    rw [registerAll, register_of_refused refused]
    rfl
  | @later registry changed request error rest accepted behind ih =>
    obtain ⟨registration, registers⟩ := exists_register_of_accepted accepted
    obtain ⟨refusal, failed, silent, refuses⟩ := ih
    refine ⟨⟨(announced registry registration).trace ++ refusal.trace, refusal.result⟩, failed,
      silent, fun session same => ?_⟩
    have later := refuses { session with registry := changed } rfl
    rw [registerAll, registers session same, ← later]
    rfl

/-- Requests of which each is valid, and which lead to distinct labels. -/
def Admissible (requests : List Request) : Prop :=
  ∃ registry : Registry,
    List.Forall₂ (fun request registration => Registration.ofRequest request = .ok registration)
      requests registry ∧
    registry.labels.Nodup

/-- Of requests that are not admissible, one is the first that is refused. -/
theorem firstRefused_of_not_admissible {requests : List Request}
    (flawed : ¬ Admissible requests) : ∃ error, FirstRefused [] requests error :=
  (firstRefused_or_valid [] List.nodup_nil requests).resolve_right flawed

/-- Requests to match of which one is refused end with its error, whatever else is given. -/
theorem matchAll_of_firstRefused {requests : List Request} {error : Error}
    (first : FirstRefused [] requests error) :
    ∃ refusal : Run Report, refusal.result = .error error ∧ refusal.deliveries = [] ∧
      ∀ (setup : Setup) (document : Value) (context : Option Value),
        matchAll setup requests document context = refusal := by
  obtain ⟨⟨trace, result⟩, failed, silent, refuses⟩ := registerAll_of_firstRefused first
  cases failed
  refine ⟨⟨trace, .error error⟩, rfl, silent, fun setup document context => ?_⟩
  have refused := refuses ⟨setup, [], []⟩ rfl
  rw [matchAll]
  dsimp only
  rw [refused]
  rfl

end Session

end GraphPattern
