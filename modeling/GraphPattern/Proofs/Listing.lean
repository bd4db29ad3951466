import GraphPattern.Proofs.Following
import GraphPattern.Proofs.Merging
import Mathlib.Data.List.Basic
import Mathlib.Data.List.Flatten

/-!
# The events of a source as a list

`Source.listing` gives the events of a source by list operations alone: unions
append, extensions filter and merge, and a join goes through its right operand
and, for every binding there, through all of its left one. Walking through a
source follows its listing, and shows all of it when the test of equality
answers for all values and the source has no unknown part.
-/

namespace GraphPattern

namespace Binding

/-- Whether every variable that a binding shares with an extension has equal values in both, the
extension's value being the first in each test. -/
def agrees (equal : EqualityTest) (binding extension : Binding) : Bool :=
  (binding.shared extension).all fun pair => equal.holds pair.1 pair.2

/-- A binding agrees with an extension exactly when the values of each shared variable pass the
test. -/
theorem agrees_iff (equal : EqualityTest) (binding extension : Binding) :
    binding.agrees equal extension = true ↔
      ∀ name first second, extension.get? name = some first → binding.get? name = some second →
        equal.holds first second = true := by
  rw [agrees, List.all_eq_true]
  constructor
  · intro every name first second given bound
    exact every (first, second) ((mem_shared_iff binding extension first second).2
      ⟨name, given, bound⟩)
  · rintro every ⟨first, second⟩ member
    obtain ⟨name, given, bound⟩ := (mem_shared_iff binding extension first second).1 member
    exact every name first second given bound

end Binding

namespace Event

/-- The bindings among events, in order. -/
def bindings (events : List Event) : List Binding := events.filterMap binding?

/-- The faults among events, in order. -/
def faults (events : List Event) : List Error := events.filterMap fault?

/-- What an event gives when it is extended: a binding that agrees is merged, another one is
dropped, and a fault passes. -/
def extensions (equal : EqualityTest) (extension : Binding) : Event → List Event
  | binding bound => if bound.agrees equal extension then [binding (bound.merged extension)] else []
  | fault error => [fault error]

/-- What stands in the place of one event on the right of a join. -/
def joinedAt (equal : EqualityTest) (left : List Event) : Event → List Event
  | binding extension => left.flatMap (extensions equal extension)
  | fault error => [fault error]

/-- The joined events of two operands: the left ones are gone through for every binding on the
right. -/
def joined (equal : EqualityTest) (left right : List Event) : List Event :=
  right.flatMap (joinedAt equal left)

/-- The bindings of one list of events behind another. -/
@[simp] theorem bindings_append (front back : List Event) :
    bindings (front ++ back) = bindings front ++ bindings back := List.filterMap_append

/-- Bindings as events have themselves as their bindings. -/
@[simp] theorem bindings_map_binding (list : List Binding) :
    bindings (list.map binding) = list := by
  rw [bindings, List.filterMap_map]
  exact List.filterMap_some

/-- The bindings among events are the events that are bindings. -/
theorem mem_bindings_iff {events : List Event} {bound : Binding} :
    bound ∈ bindings events ↔ binding bound ∈ events := by
  rw [bindings, List.mem_filterMap]
  constructor
  · rintro ⟨event, member, isBinding⟩
    cases event with
    | binding other =>
      obtain rfl := Option.some.inj isBinding
      exact member
    | fault error => cases isBinding
  · exact fun member => ⟨binding bound, member, rfl⟩

/-- The bindings of events that are put in the place of others. -/
theorem bindings_flatMap {α : Type} (list : List α) (image : α → List Event) :
    bindings (list.flatMap image) = list.flatMap fun element => bindings (image element) := by
  rw [bindings, List.filterMap_flatMap]
  rfl

/-- The bindings of several copies of events. -/
theorem bindings_copies (times : Nat) (events : List Event) :
    bindings (List.replicate times events).flatten =
      (List.replicate times (bindings events)).flatten := by
  rw [bindings, List.filterMap_flatten, List.map_replicate]
  rfl

/-- Extending bindings keeps those that agree and merges them. -/
theorem flatMap_extensions_binding (equal : EqualityTest) (extension : Binding)
    (list : List Binding) :
    (list.map binding).flatMap (extensions equal extension) =
      ((list.filter (Binding.agrees equal · extension)).map
        (Binding.merged · extension)).map binding := by
  induction list with
  | nil => rfl
  | cons bound rest ih =>
    rw [List.map_cons, List.flatMap_cons, ih, List.filter_cons, extensions]
    by_cases agreeing : bound.agrees equal extension = true
    · rw [if_pos agreeing, if_pos agreeing]
      rfl
    · rw [if_neg agreeing, if_neg agreeing]
      rfl

/-- Joining bindings gives bindings. -/
theorem joined_binding (equal : EqualityTest) (lefts rights : List Binding) :
    joined equal (lefts.map binding) (rights.map binding) =
      (rights.flatMap fun extension =>
        (lefts.filter (Binding.agrees equal · extension)).map
          (Binding.merged · extension)).map binding := by
  rw [joined, List.flatMap_map, List.map_flatMap]
  simp only [joinedAt, flatMap_extensions_binding]

/-- Extending events keeps the bindings that agree and merges them; faults do not matter. -/
theorem bindings_extensions (equal : EqualityTest) (extension : Binding) (events : List Event) :
    bindings (events.flatMap (extensions equal extension)) =
      ((bindings events).filter (Binding.agrees equal · extension)).map
        (Binding.merged · extension) := by
  induction events with
  | nil => rfl
  | cons event rest ih =>
    rw [List.flatMap_cons, bindings_append, ih]
    cases event with
    | fault error => rfl
    | binding bound =>
      show bindings (if bound.agrees equal extension then _ else []) ++ _ =
        ((bound :: bindings rest).filter _).map _
      rw [List.filter_cons]
      by_cases agreeing : bound.agrees equal extension = true
      · rw [if_pos agreeing, if_pos agreeing]
        rfl
      · rw [if_neg agreeing, if_neg agreeing]
        rfl

/-- The bindings of a join: for every binding on the right, those on the left that agree with it,
merged with it. -/
theorem bindings_joined (equal : EqualityTest) (left right : List Event) :
    bindings (joined equal left right) =
      (bindings right).flatMap fun extension =>
        ((bindings left).filter (Binding.agrees equal · extension)).map
          (Binding.merged · extension) := by
  induction right with
  | nil => rfl
  | cons event rest ih =>
    rw [joined, List.flatMap_cons, bindings_append, ← joined, ih]
    cases event with
    | fault error => rfl
    | binding extension => rw [joinedAt, bindings_extensions]; rfl

/-- The faults of one list of events behind another. -/
@[simp] theorem faults_append (front back : List Event) :
    faults (front ++ back) = faults front ++ faults back := List.filterMap_append

/-- There are no faults in the place of events exactly when each of them leaves none. -/
theorem faults_flatMap_eq_nil_iff {α : Type} (list : List α) (image : α → List Event) :
    faults (list.flatMap image) = [] ↔ ∀ element ∈ list, faults (image element) = [] := by
  induction list with
  | nil => simp [faults]
  | cons element rest ih =>
    rw [List.flatMap_cons, faults_append, List.append_eq_nil_iff, ih, List.forall_mem_cons]

/-- Extending events neither hides a fault nor adds one. -/
theorem faults_extensions (equal : EqualityTest) (extension : Binding) (events : List Event) :
    faults (events.flatMap (extensions equal extension)) = faults events := by
  induction events with
  | nil => rfl
  | cons event rest ih =>
    rw [List.flatMap_cons, faults_append, ih]
    cases event with
    | fault error => rfl
    | binding bound =>
      have nothing : faults (extensions equal extension (binding bound)) = [] := by
        rw [extensions]
        by_cases agreeing : bound.agrees equal extension = true
        · rw [if_pos agreeing]
          rfl
        · rw [if_neg agreeing]
          rfl
      rw [nothing, List.nil_append]
      rfl

/-- Restricting the bindings among events changes no fault. -/
theorem faults_map_restricted (kept : List String) (events : List Event) :
    faults (events.map (restricted kept)) = faults events := by
  rw [faults, List.filterMap_map]
  refine List.filterMap_congr fun event _ => ?_
  cases event <;> rfl

/-- Restricting events restricts their bindings. -/
theorem bindings_map_restricted (kept : List String) (events : List Event) :
    bindings (events.map (restricted kept)) =
      (bindings events).map fun bound => bound.restricted kept := by
  rw [bindings, List.filterMap_map, bindings, List.map_filterMap]
  refine List.filterMap_congr fun event _ => ?_
  cases event <;> rfl

section Sublists

variable {equal : EqualityTest} {fewer more : List Event}

/-- Extending some of the bindings gives some of the extended ones. -/
theorem sublist_bindings_extensions (extension : Binding)
    (sublist : (bindings fewer).Sublist (bindings more)) :
    (bindings (fewer.flatMap (extensions equal extension))).Sublist
      (bindings (more.flatMap (extensions equal extension))) := by
  rw [bindings_extensions, bindings_extensions]
  exact (sublist.filter _).map _

/-- Restricting some of the bindings gives some of the restricted ones. -/
theorem sublist_bindings_restricted (kept : List String)
    (sublist : (bindings fewer).Sublist (bindings more)) :
    (bindings (fewer.map (restricted kept))).Sublist (bindings (more.map (restricted kept))) := by
  rw [bindings_map_restricted, bindings_map_restricted]
  exact sublist.map _

/-- Joining some of the bindings on either side gives some of the joined ones. -/
theorem sublist_bindings_joined {fewerRight moreRight : List Event}
    (left : (bindings fewer).Sublist (bindings more))
    (right : (bindings fewerRight).Sublist (bindings moreRight)) :
    (bindings (joined equal fewer fewerRight)).Sublist
      (bindings (joined equal more moreRight)) := by
  rw [bindings_joined, bindings_joined]
  have outer := right.flatMap fun extension =>
    ((bindings fewer).filter (Binding.agrees equal · extension)).map (Binding.merged · extension)
  apply outer.trans
  apply List.Sublist.flatMap_right
  intro extension _
  exact (left.filter _).map _

end Sublists

/-- Events that are neither bindings nor faults are none. -/
theorem eq_nil_of_bindings_of_faults {events : List Event} (unbound : bindings events = [])
    (clean : faults events = []) : events = [] := by
  rw [bindings, List.filterMap_eq_nil_iff] at unbound
  rw [faults, List.filterMap_eq_nil_iff] at clean
  rw [List.eq_nil_iff_forall_not_mem]
  intro event member
  cases event with
  | binding bound => exact nomatch unbound _ member
  | fault error => exact nomatch clean _ member

/-- The faults of joined events are those on the right, and those on the left if there is a binding
on the right to join with. -/
theorem mem_faults_joined_iff {equal : EqualityTest} {left right : List Event} {error : Error} :
    error ∈ faults (joined equal left right) ↔
      error ∈ faults right ∨ bindings right ≠ [] ∧ error ∈ faults left := by
  induction right with
  | nil => simp [joined, faults, bindings]
  | cons event rest ih =>
    rw [joined, List.flatMap_cons, faults_append, List.mem_append, ← joined, ih]
    cases event with
    | fault other =>
      show error ∈ [other] ∨ _ ↔ error ∈ other :: faults rest ∨ bindings rest ≠ [] ∧ _
      rw [List.mem_singleton, List.mem_cons, or_assoc]
    | binding extension =>
      have bound : bindings (binding extension :: rest) ≠ [] := List.cons_ne_nil extension _
      rw [joinedAt, faults_extensions]
      show _ ↔ error ∈ faults rest ∨ _
      constructor
      · rintro (inLeft | inRest | ⟨_, inLeft⟩)
        · exact .inr ⟨bound, inLeft⟩
        · exact .inl inRest
        · exact .inr ⟨bound, inLeft⟩
      · rintro (inRest | ⟨_, inLeft⟩)
        · exact .inr (.inl inRest)
        · exact .inl inLeft

/-- Joined events show no fault exactly if there is none on the right, and none on the left
either unless there is no binding on the right to join with. -/
theorem faults_joined_eq_nil_iff {equal : EqualityTest} {left right : List Event} :
    faults (joined equal left right) = [] ↔
      faults right = [] ∧ (bindings right = [] ∨ faults left = []) := by
  constructor
  · intro clean
    have nowhere : ∀ error,
        ¬ (error ∈ faults right ∨ bindings right ≠ [] ∧ error ∈ faults left) := by
      intro error shown
      have member : error ∈ faults (joined equal left right) := mem_faults_joined_iff.2 shown
      rw [clean] at member
      cases member
    refine ⟨List.eq_nil_iff_forall_not_mem.2 fun error member => nowhere error (.inl member), ?_⟩
    by_cases unbound : bindings right = []
    · exact .inl unbound
    · exact .inr (List.eq_nil_iff_forall_not_mem.2 fun error member =>
        nowhere error (.inr ⟨unbound, member⟩))
  · rintro ⟨clear, others⟩
    refine List.eq_nil_iff_forall_not_mem.2 fun error member => ?_
    rcases mem_faults_joined_iff.1 member with inRight | ⟨bound, inLeft⟩
    · rw [clear] at inRight
      cases inRight
    · have leftClear := others.resolve_left bound
      rw [leftClear] at inLeft
      cases inLeft

end Event

namespace Source

mutual

/-- The events of a source as a list. -/
def listing (equal : EqualityTest) : Source → List Event
  | compatible => [.binding .empty]
  | incompatible => []
  | single binding => [.binding binding]
  | table bindings => bindings.map .binding
  | multiply source times => (List.replicate times (listing equal source)).flatten
  | union sources => listingAll equal sources
  | extend source binding => (listing equal source).flatMap (Event.extensions equal binding)
  | join left right => Event.joined equal (listing equal left) (listing equal right)
  | project source kept => (listing equal source).map (Event.restricted kept)
  | failure fault => [.fault fault]
  | unknown => []

/-- The events of sources, one source behind the other. -/
def listingAll (equal : EqualityTest) : List Source → List Event
  | [] => []
  | source :: rest => listing equal source ++ listingAll equal rest

end

mutual

/-- A source without an unknown part. -/
def Known : Source → Prop
  | compatible | incompatible | single _ | table _ | failure _ => True
  | multiply source _ | extend source _ | project source _ => Known source
  | union sources => KnownAll sources
  | join left right => Known left ∧ Known right
  | unknown => False

/-- Sources without an unknown part. -/
def KnownAll : List Source → Prop
  | [] => True
  | source :: rest => Known source ∧ KnownAll rest

end

/-- The events of sources are those of each, in order. -/
theorem listingAll_eq_flatMap (equal : EqualityTest) (sources : List Source) :
    listingAll equal sources = sources.flatMap (listing equal) := by
  induction sources with
  | nil => rfl
  | cons source rest ih => rw [listingAll, ih, List.flatMap_cons]

/-- Sources are known when each one is. -/
theorem knownAll_iff (sources : List Source) :
    KnownAll sources ↔ ∀ source ∈ sources, source.Known := by
  induction sources with
  | nil => simp [KnownAll]
  | cons source rest ih => rw [KnownAll, ih, List.forall_mem_cons]

/-- A union of known sources is known. -/
theorem known_union_map {α : Type} {list : List α} {build : α → Source}
    (each : ∀ element ∈ list, (build element).Known) : (union (list.map build)).Known :=
  (knownAll_iff _).2 (List.forall_mem_map.2 each)

/-- A join of known sources is known. -/
theorem known_joinAll_map {α : Type} {list : List α} {build : α → Source}
    (each : ∀ element ∈ list, (build element).Known) : (joinAll (list.map build)).Known := by
  induction list with
  | nil => trivial
  | cons element rest ih =>
    rw [List.forall_mem_cons] at each
    exact ⟨each.1, ih each.2⟩

/-- The events of a union. -/
theorem listing_union (equal : EqualityTest) (sources : List Source) :
    listing equal (union sources) = sources.flatMap (listing equal) := by
  rw [listing, listingAll_eq_flatMap]

/-- Extending an event follows what it gives. -/
theorem follows_extended (equal : EqualityTest) (extension : Binding) (event : Event) :
    (event.extended equal extension).Follows (event.extensions equal extension) := by
  cases event with
  | binding bound => exact Walk.follows_agreeing equal _ _
  | fault error => exact Walk.follows_one _

/-- Joining two walks follows the joined lists. -/
theorem follows_joined (equal : EqualityTest) {left right : Walk Event} {lefts rights : List Event}
    (first : left.Follows lefts) (second : right.Follows rights) :
    (right.bind fun
      | .binding binding => left.bind (Event.extended equal binding)
      | .fault error => Walk.one (.fault error)).Follows (Event.joined equal lefts rights) := by
  refine second.bind fun event _ => ?_
  cases event with
  | binding extension => exact first.bind fun event _ => follows_extended equal extension event
  | fault error => exact Walk.follows_one _

mutual

/-- Walking through a source follows its listing. -/
theorem follows_listing (equal : EqualityTest) :
    ∀ source : Source, (source.walk equal).Follows (source.listing equal)
  | compatible => Walk.follows_one _
  | incompatible => Walk.follows_done
  | single _ => Walk.follows_one _
  | table bindings => (Walk.follows_ofList bindings).map Event.binding
  | multiply source times => (follows_listing equal source).copies times
  | union sources => follows_listingAll equal sources
  | extend source binding =>
    (follows_listing equal source).bind fun event _ => follows_extended equal binding event
  | join left right =>
    follows_joined equal (follows_listing equal left) (follows_listing equal right)
  | project source kept => (follows_listing equal source).map (Event.restricted kept)
  | failure _ => Walk.follows_one _
  | unknown => Walk.follows_failed _ _

/-- Walking through sources follows their listings. -/
theorem follows_listingAll (equal : EqualityTest) :
    ∀ sources : List Source, (walkAll equal sources).Follows (listingAll equal sources)
  | [] => Walk.follows_done
  | source :: rest => (follows_listing equal source).append (follows_listingAll equal rest)

end

/-- Only comparisons keep the extension of an event from its end. -/
theorem unbroken_extended (equal : EqualityTest) (extension : Binding) (event : Event) :
    (event.extended equal extension).Unbroken equal := by
  cases event with
  | binding bound => exact Walk.unbroken_agreeing equal _ _
  | fault error => exact fun _ => rfl

/-- Only comparisons keep a join of two walks from its end, if that is so for each. -/
theorem unbroken_joined {equal : EqualityTest} {left right : Walk Event}
    (first : left.Unbroken equal) (second : right.Unbroken equal) :
    (right.bind fun
      | .binding binding => left.bind (Event.extended equal binding)
      | .fault error => Walk.one (.fault error)).Unbroken equal := by
  refine second.bind fun event _ => ?_
  cases event with
  | binding extension => exact first.bind fun event _ => unbroken_extended equal extension event
  | fault error => exact fun _ => rfl

/-- Joining two walks that finish does so under a test that answers for all values. -/
theorem finishes_joined {equal : EqualityTest} (total : equal.Total) {left right : Walk Event}
    (first : left.Finishes) (second : right.Finishes) :
    (right.bind fun
      | .binding binding => left.bind (Event.extended equal binding)
      | .fault error => Walk.one (.fault error)).Finishes :=
  (unbroken_joined first.unbroken second.unbroken).finishes total

mutual

/-- Only comparisons keep the walk through a known source from its end. -/
theorem unbroken_walk (equal : EqualityTest) :
    ∀ source : Source, source.Known → (source.walk equal).Unbroken equal
  | compatible, _ => fun _ => rfl
  | incompatible, _ => fun _ => rfl
  | single _, _ => fun _ => rfl
  | table bindings, _ => (Walk.finishes_ofList bindings).unbroken.map Event.binding
  | multiply source times, known => (unbroken_walk equal source known).copies times
  | union sources, known => unbroken_walkAll equal sources known
  | extend source binding, known =>
    (unbroken_walk equal source known).bind fun event _ => unbroken_extended equal binding event
  | join left right, known =>
    unbroken_joined (unbroken_walk equal left known.1) (unbroken_walk equal right known.2)
  | project source kept, known => (unbroken_walk equal source known).map (Event.restricted kept)
  | failure _, _ => fun _ => rfl
  | unknown, known => known.elim

/-- Only comparisons keep the walk through known sources from its end. -/
theorem unbroken_walkAll (equal : EqualityTest) :
    ∀ sources : List Source, KnownAll sources → (walkAll equal sources).Unbroken equal
  | [], _ => fun _ => rfl
  | source :: rest, known =>
    (unbroken_walk equal source known.1).append (unbroken_walkAll equal rest known.2)

end

/-- Walking through a known source finishes under a test that answers for all values. -/
theorem finishes_walk {equal : EqualityTest} (total : equal.Total) (source : Source)
    (known : source.Known) : (source.walk equal).Finishes :=
  (unbroken_walk equal source known).finishes total

/-- All events of a known source are seen under a test that answers for all values. -/
theorem elements_walk {equal : EqualityTest} (total : equal.Total) {source : Source}
    (known : source.Known) : (source.walk equal).elements = source.listing equal :=
  (follows_listing equal source).2 (finishes_walk total source known)

end Source

end GraphPattern
