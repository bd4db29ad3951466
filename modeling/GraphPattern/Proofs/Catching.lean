import GraphPattern.Matcher
import GraphPattern.Proofs.Listing
import Mathlib.Data.List.Forall2

/-!
# Failures that are caught while a source is built

A question about a part of a pattern that an accessor fails to answer leaves a
failure in the place of the part and a line in the log. The failure shows as a
fault when the source is gone through, unless it stands on the left of a join
that has no binding on the right.

Main statement: whatever is matched against whatever, no failure of an accessor
ends it. If it ends with a source, then the log tells of the failures in the
source, each in a line of its own, and in their order.
-/

namespace GraphPattern

/-- The faults among several copies of events. -/
theorem Event.mem_faults_copies_iff {events : List Event} {times : Nat} {error : Error} :
    error ∈ faults (List.replicate times events).flatten ↔ times ≠ 0 ∧ error ∈ faults events := by
  induction times with
  | zero => simp [faults]
  | succ times ih =>
    rw [List.replicate_succ, List.flatten_cons, faults_append, List.mem_append, ih]
    constructor
    · rintro (here | ⟨_, later⟩)
      · exact ⟨Nat.succ_ne_zero times, here⟩
      · exact ⟨Nat.succ_ne_zero times, later⟩
    · exact fun shown => .inl shown.2

namespace Source

mutual

/-- The errors of the failures in a source, from left to right. -/
def failures : Source → List Error
  | compatible | incompatible | single _ | table _ | unknown => []
  | failure error => [error]
  | multiply source _ | extend source _ | project source _ => failures source
  | union sources => failuresAll sources
  | join left right => failures left ++ failures right

/-- The errors of the failures in sources, one source behind the other. -/
def failuresAll : List Source → List Error
  | [] => []
  | source :: rest => failures source ++ failuresAll rest

end

mutual

/-- The errors of the failures in a source that show when it is gone through. What is taken no time
does not show, nor does the left of a join without a binding on the right. -/
def shownFailures (equal : EqualityTest) : Source → List Error
  | compatible | incompatible | single _ | table _ | unknown => []
  | failure error => [error]
  | multiply source times => if times = 0 then [] else shownFailures equal source
  | extend source _ | project source _ => shownFailures equal source
  | union sources => shownFailuresAll equal sources
  | join left right =>
    (if Event.bindings (right.listing equal) = [] then [] else shownFailures equal left) ++
      shownFailures equal right

/-- The errors of the failures in sources that show when they are gone through. -/
def shownFailuresAll (equal : EqualityTest) : List Source → List Error
  | [] => []
  | source :: rest => shownFailures equal source ++ shownFailuresAll equal rest

end

variable {equal : EqualityTest}

mutual

/-- The faults of a source are the errors of the failures that show. -/
theorem mem_faults_listing_iff {error : Error} : ∀ source : Source,
    error ∈ Event.faults (source.listing equal) ↔ error ∈ source.shownFailures equal
  | compatible | incompatible | single _ | unknown => Iff.rfl
  | table bindings => by
    have none : Event.faults (bindings.map Event.binding) = [] := by
      simp [Event.faults, Event.fault?]
    rw [listing, none, shownFailures]
  | failure _ => Iff.rfl
  | multiply source times => by
    rw [listing, shownFailures, Event.mem_faults_copies_iff, mem_faults_listing_iff source]
    by_cases never : times = 0
    · simp [never]
    · simp [never]
  | extend source binding => by
    rw [listing, shownFailures, Event.faults_extensions, mem_faults_listing_iff source]
  | project source kept => by
    rw [listing, shownFailures, Event.faults_map_restricted, mem_faults_listing_iff source]
  | union sources => mem_faults_listingAll_iff sources
  | join left right => by
    rw [listing, shownFailures, Event.mem_faults_joined_iff, mem_faults_listing_iff left,
      mem_faults_listing_iff right, List.mem_append, or_comm]
    by_cases unbound : Event.bindings (right.listing equal) = []
    · simp [unbound]
    · simp [unbound]

/-- The faults of sources are the errors of the failures that show. -/
theorem mem_faults_listingAll_iff {error : Error} : ∀ sources : List Source,
    error ∈ Event.faults (listingAll equal sources) ↔ error ∈ shownFailuresAll equal sources
  | [] => Iff.rfl
  | source :: rest => by
    rw [listingAll, shownFailuresAll, Event.faults_append, List.mem_append, List.mem_append,
      mem_faults_listing_iff source, mem_faults_listingAll_iff rest]

end

/-- The failures in a union are those in each source. -/
theorem failures_union (sources : List Source) :
    (union sources).failures = sources.flatMap failures := by
  show failuresAll sources = _
  induction sources with
  | nil => rfl
  | cons source rest ih => rw [failuresAll, ih, List.flatMap_cons]

/-- The failures in a join are those in each source. -/
theorem failures_joinAll (sources : List Source) :
    (joinAll sources).failures = sources.flatMap failures := by
  induction sources with
  | nil => rfl
  | cons source rest ih =>
    show source.failures ++ (joinAll rest).failures = _
    rw [ih, List.flatMap_cons]

end Source

/-- After a computation without a trace, one without a trace leaves none. -/
theorem Traced.trace_bind_eq_nil {ε α β : Type} {first : Traced ε α} {next : α → Traced ε β}
    (before : first.trace = []) (after : ∀ value, (next value).trace = []) :
    (first >>= next).trace = [] := by
  rcases first with ⟨trace, error | value⟩
  · exact before
  · exact List.append_eq_nil_iff.2 ⟨before, after value⟩

namespace Matcher

/-- A line of the log that tells of the failure of an accessor that was caught. -/
def Caught (line : LogLine) (error : Error) : Prop :=
  ∃ part access, error = .access access ∧
    line = ⟨logWriter, .debug,
      "Graph access failed while building " ++ part ++ ": " ++ access.message⟩

variable {α β : Type}

/-- A computation that lets no failure of an accessor through and whose log tells of the failures in
what it ends with, one by one. -/
structure Records (failuresOf : α → List Error) (build : Logged α) : Prop where
  /-- The lines of the log go with the failures. -/
  caught : ∀ value, build.result = .ok value →
    List.Forall₂ Caught build.trace (failuresOf value)
  /-- No failure of an accessor ends it. -/
  contained : ∀ access, build.result ≠ .error (.access access)

/-- A computation whose log tells of the failures in the source that it ends with, and that logs
nothing if an accessor fails. -/
structure Asks (build : Logged Source) : Prop where
  /-- The lines of the log go with the failures. -/
  caught : ∀ source, build.result = .ok source →
    List.Forall₂ Caught build.trace source.failures
  /-- If an accessor fails, nothing was caught before. -/
  silent : ∀ access, build.result = .error (.access access) → build.trace = []

namespace Records

/-- What is given at once and has no failures needs no line. -/
theorem pure {failuresOf : α → List Error} {value : α} (none : failuresOf value = []) :
    Records failuresOf (Pure.pure value) where
  caught := by
    rintro _ ⟨⟩
    rw [none]
    exact .nil
  contained access failed := nomatch failed

/-- What is looked up in values and not asked of an accessor needs no line. -/
theorem ofExcept_bind {answer : Except Error α} {next : α → Logged β}
    {failuresOf : β → List Error} (plain : ∀ access, answer ≠ .error (.access access))
    (after : ∀ value, Records failuresOf (next value)) :
    Records failuresOf (Traced.ofExcept answer >>= next) := by
  cases answer with
  | error error => exact ⟨fun value given => (nomatch given), fun access failed =>
      plain access (congrArg Except.error (Except.error.inj failed))⟩
  | ok value =>
    rw [Traced.ofExcept_ok_bind]
    exact after value

/-- A changed value with the same failures needs no other lines. -/
theorem bind_pure {first : Logged α} {failuresOf : α → List Error}
    {failuresOfNext : β → List Error} {change : α → β} (before : Records failuresOf first)
    (same : ∀ value, failuresOfNext (change value) = failuresOf value) :
    Records failuresOfNext (first >>= fun value => Pure.pure (change value)) := by
  rw [Traced.bind_pure_map]
  rcases first with ⟨trace, error | value⟩
  · refine ⟨fun last given => (nomatch given), fun access failed => ?_⟩
    exact before.contained access (congrArg Except.error (Except.error.inj failed))
  · refine ⟨?_, fun access failed => (nomatch failed)⟩
    rintro _ ⟨⟩
    rw [same]
    exact before.caught value rfl

/-- Two computations whose values are combined tell of the failures of the first and then of those
of the second. -/
theorem bind_both {γ : Type} {first : Logged α} {second : Logged β} {combine : α → β → γ}
    {failuresOf : α → List Error} {failuresOfNext : β → List Error}
    {failuresOfBoth : γ → List Error} (before : Records failuresOf first)
    (after : Records failuresOfNext second)
    (whole : ∀ value next,
      failuresOfBoth (combine value next) = failuresOf value ++ failuresOfNext next) :
    Records failuresOfBoth
      (first >>= fun value => second >>= fun next => Pure.pure (combine value next)) := by
  rcases first with ⟨front, error | value⟩
  · refine ⟨fun last given => (nomatch given), fun access failed => ?_⟩
    exact before.contained access (congrArg Except.error (Except.error.inj failed))
  rcases second with ⟨back, error | next⟩
  · refine ⟨fun last given => (nomatch given), fun access failed => ?_⟩
    exact after.contained access (congrArg Except.error (Except.error.inj failed))
  · refine ⟨?_, fun access failed => (nomatch failed)⟩
    rintro _ ⟨⟩
    show List.Forall₂ Caught (front ++ (back ++ [])) _
    rw [whole, List.append_nil]
    exact List.rel_append (before.caught value rfl) (after.caught next rfl)

/-- Computations one after the other tell of the failures in each of what they end with. -/
theorem mapM {list : List α} {step : α → Logged β} {failuresOf : β → List Error}
    (each : ∀ element ∈ list, Records failuresOf (step element)) :
    Records (List.flatMap failuresOf) (list.mapM step) := by
  induction list with
  | nil => exact Records.pure rfl
  | cons element rest ih =>
    rw [List.forall_mem_cons] at each
    rw [List.mapM_cons]
    exact each.1.bind_both (ih each.2) fun value values => rfl

/-- What lets no failure through is no different behind a guard. -/
theorem asks {build : Logged Source} (records : Records Source.failures build) : Asks build :=
  ⟨records.caught, fun access failed => absurd failed (records.contained access)⟩

end Records

namespace Asks

/-- After a computation that logs nothing, whatever it ends with. -/
theorem bind {first : Logged α} {next : α → Logged Source} (before : first.trace = [])
    (after : ∀ value, Asks (next value)) : Asks (first >>= next) := by
  rcases first with ⟨trace, error | value⟩
  · exact ⟨fun source given => (nomatch given), fun _ _ => before⟩
  · obtain rfl : trace = [] := before
    exact ⟨(after value).caught, (after value).silent⟩

/-- A guard catches the failure of an accessor, writes a line, and leaves a failure. -/
theorem guarded {part : String} {build : Logged Source} (asks : Asks build) :
    Records Source.failures (Matcher.guarded part build) := by
  unfold Matcher.guarded
  split
  · next access failed =>
    refine ⟨?_, fun other escaped => (nomatch escaped)⟩
    rintro _ ⟨⟩
    rw [asks.silent access failed]
    exact .cons ⟨part, access, rfl, rfl⟩ .nil
  · next other =>
    exact ⟨asks.caught, other⟩

end Asks

/-- Going through a value fails, if it does, because of the value. -/
theorem elements_ne_access (value : Value) (access : AccessError) :
    value.elements ≠ .error (.access access) := by
  unfold Value.elements
  split <;> simp

/-- Looking up a member fails, if it does, because of the value. -/
theorem member_ne_access (value : Value) (key : String) (access : AccessError) :
    value.member key ≠ .error (.access access) := by
  unfold Value.member
  split <;> simp

/-- Listing predicates fails, if it does, because of the value. -/
theorem predicates_ne_access (node : Value) (access : AccessError) :
    Node.predicates node ≠ .error (.access access) := by
  have plain := elements_ne_access node access
  unfold Node.predicates
  cases offered : node.elements with
  | ok names => exact fun failed => (nomatch failed)
  | error error =>
    rw [offered] at plain
    exact fun failed => plain (congrArg Except.error (Except.error.inj failed))

variable (matcher : Matcher) (declared : List String)

/-- Matching an object tells of its failure. -/
theorem records_matchObject (subject predicate object : Value) :
    Records Source.failures (matcher.matchObject declared subject predicate object) := by
  unfold matchObject
  apply Asks.guarded
  cases matcher.objectVariable? declared object with
  | some name =>
    refine Asks.bind rfl fun values => (Records.pure ?_).asks
    rw [Source.failures_union, List.flatMap_map]
    exact List.flatMap_eq_nil_iff.2 fun value _ => rfl
  | none =>
    refine Asks.bind rfl fun present => (Records.pure ?_).asks
    cases present <;> rfl

/-- Matching the objects of a predicate tells of the failures of each. -/
theorem records_matchObjects (subject predicate : Value) (objects : List Value) :
    Records Source.failures (matcher.matchObjects declared subject predicate objects) :=
  (Records.mapM fun object _ =>
    records_matchObject matcher declared subject predicate object).bind_pure Source.failures_joinAll

/-- Matching a predicate tells of its failures. -/
theorem records_matchPredicate (subject pattern predicate : Value) :
    Records Source.failures (matcher.matchPredicate declared subject pattern predicate) := by
  unfold matchPredicate
  apply Asks.guarded
  refine Asks.bind rfl fun objects => ?_
  cases matcher.asVariable? declared predicate with
  | some name =>
    refine (Records.ofExcept_bind (predicates_ne_access subject) fun predicates => ?_).asks
    refine Records.bind_pure (Records.mapM fun predicate _ => ?_) Source.failures_union
    exact (records_matchObjects matcher declared subject predicate objects).bind_pure fun _ => rfl
  | none =>
    refine Asks.bind rfl fun present => ?_
    cases present with
    | true => exact (records_matchObjects matcher declared subject predicate objects).asks
    | false => exact (Records.pure rfl).asks

/-- Matching all predicates of a pattern subject tells of the failures of each. -/
theorem records_matchPredicates (subject pattern : Value) :
    Records Source.failures (matcher.matchPredicates declared subject pattern) := by
  refine Records.ofExcept_bind (predicates_ne_access pattern) fun predicates => ?_
  exact (Records.mapM fun predicate _ =>
    records_matchPredicate matcher declared subject pattern predicate).bind_pure
      Source.failures_joinAll

/-- Looking for a node among others logs nothing. -/
theorem trace_findAmong (identifier : Value) (nodes : List Value) :
    (matcher.findAmong identifier nodes).trace = [] := by
  induction nodes with
  | nil => rfl
  | cons node rest ih =>
    refine Traced.trace_bind_eq_nil rfl fun name => Traced.trace_bind_eq_nil rfl fun same => ?_
    cases same with
    | true => rfl
    | false => exact ih

/-- Looking for the node that an identifier names logs nothing. -/
theorem trace_findSubject (graph identifier : Value) :
    (matcher.findSubject graph identifier).trace = [] := by
  cases identifier with
  | null => rfl
  | _ => exact Traced.trace_bind_eq_nil rfl fun nodes => trace_findAmong matcher _ nodes

/-- Matching a subject tells of its failures. -/
theorem records_matchSubject (graph pattern : Value) :
    Records Source.failures (matcher.matchSubject declared graph pattern) := by
  unfold matchSubject
  apply Asks.guarded
  refine Asks.bind rfl fun identifier => ?_
  cases matcher.asVariable? declared identifier with
  | some name =>
    refine (Records.ofExcept_bind (elements_ne_access graph) fun nodes => ?_).asks
    refine Records.bind_pure (Records.mapM fun node _ => ?_) Source.failures_union
    have named : Records (fun _ => []) (Traced.ofExcept (node.member "@id") : Logged Value) :=
      ⟨fun _ _ => .nil, member_ne_access node "@id"⟩
    exact (records_matchPredicates matcher declared node pattern).bind_both named
      fun source value => (List.append_nil _).symm
  | none =>
    refine Asks.bind (trace_findSubject matcher graph identifier) fun found => ?_
    cases found with
    | some node => exact (records_matchPredicates matcher declared node pattern).asks
    | none => exact (Records.pure rfl).asks

/-- Matching tells of every failure and fails on none. Whatever pattern is matched against
whatever graph, no failure of the accessor ends it. If it ends with a source, the lines of the log
go with the failures in the source, one by one. -/
theorem records_matchPattern (graph pattern : Value) :
    Records Source.failures (matcher.matchPattern graph pattern declared) := by
  refine Records.bind_pure ?_ fun _ => rfl
  refine Records.ofExcept_bind (elements_ne_access pattern) fun subjects => ?_
  exact (Records.mapM fun subject _ =>
    records_matchSubject matcher declared graph subject).bind_pure Source.failures_joinAll

end Matcher

end GraphPattern
