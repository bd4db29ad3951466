import GraphPattern.Comparison
import GraphPattern.Proofs.Composition
import GraphPattern.Proofs.Join

/-!
# Dropping variables before a join

A join compares the values of a variable only if two of its sources bind it. So
variables that one source alone binds, and that nobody asks for behind the join,
can be dropped before it. What is kept is compared, merged and shown as before,
and a fault of a source on the left is repeated as often.

Main statement: a projection behind a join can be made on every source of it as
well, to any variables among which are those that are asked for and those in
which bindings of two sources meet.
-/

namespace GraphPattern

namespace Binding

/-- All variables that two bindings have in common are among some given ones. -/
def MeetWithin (kept : List String) (binding other : Binding) : Prop :=
  ∀ name ∈ binding.keys, name ∈ other.keys → name ∈ kept

instance (kept : List String) (binding other : Binding) :
    Decidable (MeetWithin kept binding other) :=
  inferInstanceAs (Decidable (∀ name ∈ binding.keys, name ∈ other.keys → name ∈ kept))

/-- The same values are compared if all common variables are kept. -/
theorem shared_restricted {kept : List String} {binding extension : Binding}
    (meet : MeetWithin kept binding extension) :
    (binding.restricted kept).shared (extension.restricted kept) = binding.shared extension := by
  show ((extension.entries.filter fun entry => kept.contains entry.1).filterMap _) =
    extension.entries.filterMap _
  rw [List.filterMap_filter]
  refine List.filterMap_congr fun entry member => ?_
  show (if kept.contains entry.1 = true then
      ((binding.restricted kept).get? entry.1).map fun bound => (entry.2, bound) else none) =
    (binding.get? entry.1).map fun bound => (entry.2, bound)
  rw [get?_restricted]
  by_cases isKept : kept.contains entry.1 = true
  · rw [if_pos isKept, if_pos isKept]
  · have bound : entry.1 ∈ extension.keys := List.mem_map_of_mem member
    have absent : entry.1 ∉ binding.keys := by
      intro shared
      exact isKept (List.contains_iff_mem.2 (meet entry.1 shared bound))
    have nothing := (get?_eq_none_iff binding entry.1).2 absent
    rw [if_neg isKept, nothing, Option.map_none]

/-- What a binding has in common with a merge is kept if what it has in common with both parts
is. -/
theorem MeetWithin.merged {kept : List String} {binding first second : Binding}
    (meetFirst : MeetWithin kept binding first) (meetSecond : MeetWithin kept binding second) :
    MeetWithin kept binding (first.merged second) := by
  intro name bound held
  rw [keys_merged, List.mem_append] at held
  rcases held with inFirst | inSecond
  · exact meetFirst name bound inFirst
  · exact meetSecond name bound (List.mem_of_mem_filter inSecond)

end Binding

namespace Event

/-- An event is extended alike if all common variables are kept. -/
theorem extended_restricted (equal : EqualityTest) {kept : List String} {extension : Binding}
    {event : Event}
    (meet : ∀ bound, event = binding bound → Binding.MeetWithin kept bound extension) :
    (event.restricted kept).extended equal (extension.restricted kept) =
      (event.extended equal extension).map (restricted kept) := by
  cases event with
  | binding bound =>
    have values := Binding.shared_restricted (meet bound rfl)
    show Walk.agreeing equal (binding ((bound.restricted kept).merged (extension.restricted kept)))
      ((bound.restricted kept).shared (extension.restricted kept)) = _
    rw [extended, Walk.map_agreeing, values, ← Binding.restricted_merged]
    rfl
  | fault error => rfl

end Event

namespace Source

variable {equal : EqualityTest} {kept : List String}

/-- All variables in which the bindings of two sources meet are among some given ones. -/
def MeetWithin (equal : EqualityTest) (kept : List String) (source other : Source) : Prop :=
  ∀ binding ∈ source.bindings equal, ∀ extension ∈ other.bindings equal,
    Binding.MeetWithin kept binding extension

instance (equal : EqualityTest) (kept : List String) (source other : Source) :
    Decidable (MeetWithin equal kept source other) :=
  inferInstanceAs (Decidable (∀ binding ∈ source.bindings equal,
    ∀ extension ∈ other.bindings equal, Binding.MeetWithin kept binding extension))

/-- A binding of a join is merged from a binding on the left and one on the right. -/
theorem exists_of_mem_bindings_join {left right : Source} {binding : Binding}
    (member : binding ∈ (join left right).bindings equal) :
    ∃ bound ∈ left.bindings equal, ∃ extension ∈ right.bindings equal,
      bound.merged extension = binding := by
  have follows : ((join left right).walk equal).Follows _ :=
    follows_joined equal (Walk.follows_elements _) (Walk.follows_elements _)
  have joined := (follows.1.filterMap Event.binding?).subset member
  change binding ∈ Event.bindings _ at joined
  rw [Event.bindings_joined, List.mem_flatMap] at joined
  obtain ⟨extension, onRight, merged⟩ := joined
  obtain ⟨bound, agreeing, same⟩ := List.mem_map.1 merged
  exact ⟨bound, List.mem_of_mem_filter agreeing, extension, onRight, same⟩

/-- A source meets a join in kept variables if it meets each source of the join so. -/
theorem meetWithin_joinAll {source : Source} {sources : List Source}
    (meet : ∀ other ∈ sources, MeetWithin equal kept source other) :
    MeetWithin equal kept source (joinAll sources) := by
  induction sources with
  | nil =>
    intro binding _ extension member name _ held
    obtain rfl := List.mem_singleton.1 member
    cases held
  | cons other rest ih =>
    obtain ⟨here, behind⟩ := List.forall_mem_cons.1 meet
    intro binding bound joined member
    obtain ⟨first, onLeft, second, onRight, rfl⟩ := exists_of_mem_bindings_join member
    exact (here binding bound first onLeft).merged (ih behind binding bound second onRight)

/-- A join of two sources that meet in kept variables can be restricted on both sides. -/
theorem walk_join_projected {left right : Source} (meet : MeetWithin equal kept left right) :
    (join (project left kept) (project right kept)).walk equal =
      (project (join left right) kept).walk equal := by
  rw [walk, walk, walk, walk, walk, Walk.bind_map, Walk.map_bind]
  refine Walk.bind_congr_of_elements fun event shown => ?_
  cases event with
  | binding extension =>
    have onRight : extension ∈ right.bindings equal := Event.mem_bindings_iff.2 shown
    show ((left.walk equal).map _).bind (Event.extended equal (extension.restricted kept)) =
      ((left.walk equal).bind (Event.extended equal extension)).map _
    rw [Walk.bind_map, Walk.map_bind]
    refine Walk.bind_congr_of_elements fun event shown => ?_
    refine Event.extended_restricted equal ?_
    rintro bound rfl
    exact meet bound (Event.mem_bindings_iff.2 shown) extension onRight
  | fault error => rfl

/-- A join of sources that meet in kept variables can be restricted in every one of them. -/
theorem walk_joinAll_projected {sources : List Source}
    (meet : sources.Pairwise (MeetWithin equal kept)) :
    (joinAll (sources.map (project · kept))).walk equal =
      (project (joinAll sources) kept).walk equal := by
  induction sources with
  | nil => rfl
  | cons source rest ih =>
    obtain ⟨withRest, amongRest⟩ := List.pairwise_cons.1 meet
    have behind := ih amongRest
    show (join (project source kept) (joinAll (rest.map (project · kept)))).walk equal = _
    rw [walk, behind, ← walk]
    exact walk_join_projected (meetWithin_joinAll withRest)

/-- Restricting to the kept variables first changes no projection to some of them. -/
theorem walk_project_project (equal : EqualityTest) (source : Source) {wanted kept : List String}
    (subset : ∀ name ∈ wanted, name ∈ kept) :
    (project (project source kept) wanted).walk equal = (project source wanted).walk equal := by
  have twice : (fun event : Event => (event.restricted kept).restricted wanted) =
      Event.restricted wanted := by
    funext event
    cases event with
    | binding bound =>
      exact congrArg Event.binding (Binding.restricted_restricted bound subset)
    | fault error => rfl
  rw [walk, walk, walk, Walk.map_map, twice]

/-- Variables can be dropped before a join. Let the variables to keep be those that are wanted
behind a join, those in which bindings of two of its sources meet, and any others. Then, under every
test of equality, it makes no difference to the walk whether each source is restricted to them
first: the same values are compared in the same order, the same bindings are shown, with their
order, their variables and their values, every fault is shown as often and in the same places, and
the walk ends in the same error if it ends in one. -/
theorem walk_project_joinAll_projected (equal : EqualityTest) {sources : List Source}
    {wanted kept : List String} (subset : ∀ name ∈ wanted, name ∈ kept)
    (meet : sources.Pairwise (MeetWithin equal kept)) :
    (project (joinAll (sources.map (project · kept))) wanted).walk equal =
      (project (joinAll sources) wanted).walk equal := by
  have early : (joinAll (sources.map (project · kept))).walk equal =
      (project (joinAll sources) kept).walk equal := walk_joinAll_projected meet
  rw [walk, early, ← walk, walk_project_project equal (joinAll sources) subset]

/-- Three sources meet in the variable `x` only, and each of the first two binds a further one that
nobody asks for. The test cannot compare the text that is bound there, but it never has to. The
fault on the left is shown for every binding behind it, whether or not variables are dropped. -/
theorem walk_project_joinAll_projected_shared :
    let equal : EqualityTest := .atMost
    let sources : List Source :=
      [union [failure .beyondEnd,
          table [.ofPairs [("a", .text "p"), ("x", .int 5)], .single "x" (.int 1)]],
        table [.ofPairs [("b", .text "q"), ("y", .int 6)]],
        table [.single "x" (.int 3), .single "x" (.int 4)]]
    let wanted := ["y"]
    let kept := ["y", "x"]
    let early := project (joinAll (sources.map (project · kept))) wanted
    let late := project (joinAll sources) wanted
    let shown (source : Source) := (source.walk equal).elements.map fun event =>
      event.binding?.map fun binding => (binding.keys, (binding.get? "y").bind Value.integer?)
    early.walk equal = late.walk equal ∧
      shown late = [none, some (["y"], some 6), none, some (["y"], some 6)] := by
  intro equal sources wanted kept early late shown
  have subset : ∀ name ∈ wanted, name ∈ kept := by decide
  have meet : sources.Pairwise (MeetWithin equal kept) := by
    subst sources kept equal
    decide +kernel
  refine ⟨walk_project_joinAll_projected equal subset meet, ?_⟩
  clear * -
  subst shown late wanted sources equal
  decide +kernel

end Source

end GraphPattern
