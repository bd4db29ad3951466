import GraphPattern.Proofs.Finding
import Mathlib.Algebra.BigOperators.Fin

/-!
# How often a join shows a fault

A join goes through its left source once for every binding on its right, and
each time it shows all faults of that source again. In a join of many sources
the faults of each are therefore repeated, once for every binding of the join of
the sources behind it, and the repetitions stand between the faults of the other
sources.

To tell whose fault is whose, every event of a join is put together with the
place of the source that was gone through when it was seen.

Main statement: the faults of each source in a join are its own, the whole
sequence once for every binding of what is joined behind it. The test of
equality may be any test at all.
-/

namespace GraphPattern

namespace Event

/-- The joined events of operands, each with the place of the operand that shows it. A binding is
shown by the first operand, which is the innermost one. -/
def joinedFrom (equal : EqualityTest) : List (List Event) → List (Nat × Event)
  | [] => [(0, binding .empty)]
  | events :: rest =>
    (joinedFrom equal rest).flatMap fun
      | (_, binding extension) => (events.flatMap (extensions equal extension)).map (0, ·)
      | (place, fault error) => [(place + 1, fault error)]

/-- The faults among events that come with places. -/
def placedFaults (events : List (Nat × Event)) : List (Nat × Error) :=
  events.filterMap fun (place, event) => event.fault?.map (place, ·)

/-- What one operand shows. -/
def shownAt (place : Nat) (entries : List (Nat × Error)) : List Error :=
  (entries.filter fun entry => entry.1 == place).map Prod.snd

/-- Without the places, the events are the joined ones. -/
theorem map_snd_joinedFrom (equal : EqualityTest) (lists : List (List Event)) :
    (joinedFrom equal lists).map Prod.snd = lists.foldr (joined equal) [binding .empty] := by
  induction lists with
  | nil => rfl
  | cons events rest ih =>
    rw [joinedFrom, List.foldr_cons, ← ih, joined, List.map_flatMap, List.flatMap_map]
    congr 1
    funext entry
    obtain ⟨place, event⟩ := entry
    cases event with
    | binding extension =>
      simp only [joinedAt, List.map_map, Function.comp_def, List.map_id']
    | fault error => rfl

/-- Without the places, the faults are the faults among the events. -/
theorem map_snd_placedFaults (events : List (Nat × Event)) :
    (placedFaults events).map Prod.snd = faults (events.map Prod.snd) := by
  rw [placedFaults, faults, List.map_filterMap, List.filterMap_map]
  refine List.filterMap_congr fun entry _ => ?_
  obtain ⟨place, event⟩ := entry
  cases event <;> rfl

/-- The faults of events that all have one place. -/
theorem placedFaults_map_pair (place : Nat) (events : List Event) :
    placedFaults (events.map (place, ·)) = (faults events).map (place, ·) := by
  rw [placedFaults, List.filterMap_map, faults, List.map_filterMap]
  rfl

/-- One more operand in front shows its faults for every binding; the faults of the others move one
place on. -/
theorem placedFaults_joinedFrom_cons (equal : EqualityTest) (events : List Event)
    (rest : List (List Event)) :
    placedFaults (joinedFrom equal (events :: rest)) =
      (joinedFrom equal rest).flatMap fun
        | (_, binding _) => (faults events).map (0, ·)
        | (place, fault error) => [(place + 1, error)] := by
  rw [joinedFrom, placedFaults, List.filterMap_flatMap]
  congr 1
  funext entry
  obtain ⟨place, event⟩ := entry
  cases event with
  | binding extension =>
    show placedFaults _ = _
    rw [placedFaults_map_pair, faults_extensions]
  | fault error => rfl

/-- The first operand shows all its faults for every binding of the others. -/
theorem shownAt_zero_joinedFrom (equal : EqualityTest) (events : List Event)
    (rest : List (List Event)) :
    shownAt 0 (placedFaults (joinedFrom equal (events :: rest))) =
      (bindings (rest.foldr (joined equal) [binding .empty])).flatMap fun _ => faults events := by
  rw [placedFaults_joinedFrom_cons, ← map_snd_joinedFrom]
  induction joinedFrom equal rest with
  | nil => rfl
  | cons entry others ih =>
    obtain ⟨place, event⟩ := entry
    rw [List.flatMap_cons, shownAt, List.filter_append, List.map_append, ← shownAt, ← shownAt, ih]
    cases event with
    | binding extension =>
      show shownAt 0 ((faults events).map (0, ·)) ++ _ = faults events ++ _
      congr 1
      simp [shownAt, List.filter_map, Function.comp_def]
    | fault error => rfl

/-- The other operands show what they show without the first one. -/
theorem shownAt_succ_joinedFrom (equal : EqualityTest) (events : List Event)
    (rest : List (List Event)) (place : Nat) :
    shownAt (place + 1) (placedFaults (joinedFrom equal (events :: rest))) =
      shownAt place (placedFaults (joinedFrom equal rest)) := by
  rw [placedFaults_joinedFrom_cons]
  induction joinedFrom equal rest with
  | nil => rfl
  | cons entry others ih =>
    obtain ⟨other, event⟩ := entry
    rw [List.flatMap_cons, shownAt, List.filter_append, List.map_append, ← shownAt, ← shownAt, ih]
    cases event with
    | binding extension =>
      have nothing : shownAt (place + 1) ((faults events).map (0, ·)) = [] := by
        simp [shownAt, List.filter_map, Function.comp_def]
      show shownAt (place + 1) ((faults events).map (0, ·)) ++ _ = _
      rw [nothing]
      rfl
    | fault error =>
      by_cases here : other = place
      · simp [shownAt, placedFaults, fault?, here]
      · simp [shownAt, placedFaults, fault?, here]

/-- Each operand shows its own faults, the whole sequence once for every binding of what is
joined behind it. -/
theorem shownAt_joinedFrom (equal : EqualityTest) {lists : List (List Event)} {place : Nat}
    {events : List Event} (here : lists[place]? = some events) :
    shownAt place (placedFaults (joinedFrom equal lists)) =
      (bindings ((lists.drop (place + 1)).foldr (joined equal) [binding .empty])).flatMap
        fun _ => faults events := by
  induction lists generalizing place with
  | nil => cases here
  | cons first rest ih =>
    cases place with
    | zero =>
      obtain rfl := Option.some.inj here
      exact shownAt_zero_joinedFrom equal first rest
    | succ place => rw [shownAt_succ_joinedFrom, ih here, List.drop_succ_cons]

/-- Every fault with a place is a fault of the operand there. -/
theorem exists_of_mem_placedFaults (equal : EqualityTest) {lists : List (List Event)} {place : Nat}
    {error : Error} (shown : (place, error) ∈ placedFaults (joinedFrom equal lists)) :
    ∃ events, lists[place]? = some events ∧ error ∈ faults events := by
  induction lists generalizing place with
  | nil => cases shown
  | cons events rest ih =>
    rw [placedFaults_joinedFrom_cons, List.mem_flatMap] at shown
    obtain ⟨⟨other, event⟩, member, given⟩ := shown
    cases event with
    | binding extension =>
      obtain ⟨own, isOwn, same⟩ := List.mem_map.1 given
      cases same
      exact ⟨events, rfl, isOwn⟩
    | fault cause =>
      cases List.mem_singleton.1 given
      exact ih (List.mem_filterMap.2 ⟨(other, fault error), member, rfl⟩)

/-- A join shows the faults on the right, and those on the left for every binding on the right. -/
theorem length_faults_joined (equal : EqualityTest) (left right : List Event) :
    (faults (joined equal left right)).length =
      (faults left).length * (bindings right).length + (faults right).length := by
  induction right with
  | nil => rfl
  | cons event rest ih =>
    rw [joined, List.flatMap_cons, faults_append, List.length_append, ← joined, ih]
    cases event with
    | binding extension =>
      show (faults (joinedAt equal left (binding extension))).length + _ =
        (faults left).length * ((bindings rest).length + 1) + (faults rest).length
      rw [joinedAt, faults_extensions, Nat.mul_succ]
      omega
    | fault error =>
      show 1 + _ = (faults left).length * (bindings rest).length + ((faults rest).length + 1)
      omega

end Event

namespace Source

variable {equal : EqualityTest}

/-- The faults that a walk through a source shows, in order. -/
def faults (equal : EqualityTest) (source : Source) : List Error :=
  Event.faults (source.walk equal).elements

/-- The events that the sources of a join show, joined as lists. -/
def joinedElements (equal : EqualityTest) (sources : List Source) : List Event :=
  (sources.map fun source => (source.walk equal).elements).foldr (Event.joined equal)
    [.binding .empty]

/-- A join that finishes goes through the join of the sources behind any place to its end. -/
theorem finishes_joinAll_drop {sources : List Source}
    (finishes : ((joinAll sources).walk equal).Finishes) (count : Nat) :
    ((joinAll (sources.drop count)).walk equal).Finishes := by
  induction count generalizing sources with
  | zero => exact finishes
  | succ count ih =>
    cases sources with
    | nil => exact finishes
    | cons source rest => exact ih (finishes_join_iff.1 finishes).1

/-- A join that finishes shows the joined events. -/
theorem elements_joinAll {sources : List Source}
    (finishes : ((joinAll sources).walk equal).Finishes) :
    ((joinAll sources).walk equal).elements = joinedElements equal sources := by
  rw [joinedElements, List.foldr_map]
  exact (follows_joinAll equal sources).2 finishes

/-- The number of faults of a join that finishes: those of each source, times the bindings of the
join of the sources behind it. -/
theorem length_faults_joinAll {sources : List Source}
    (finishes : ((joinAll sources).walk equal).Finishes) :
    ((joinAll sources).faults equal).length =
      ∑ place : Fin sources.length, (sources[place].faults equal).length *
        ((joinAll (sources.drop (place + 1))).bindings equal).length := by
  induction sources with
  | nil => rfl
  | cons source rest ih =>
    have behind : ((joinAll rest).walk equal).Finishes := finishes_joinAll_drop finishes 1
    have joined : ((joinAll (source :: rest)).faults equal).length =
        (source.faults equal).length * ((joinAll rest).bindings equal).length +
          ((joinAll rest).faults equal).length := by
      rw [faults, elements_joinAll finishes, faults, faults, bindings, elements_joinAll behind]
      exact Event.length_faults_joined equal _ _
    rw [joined, ih behind]
    exact (Fin.sum_univ_succ fun place : Fin (rest.length + 1) =>
      ((source :: rest)[place].faults equal).length *
        ((joinAll ((source :: rest).drop (place + 1))).bindings equal).length).symm

/-- A join shows the faults of each source once for every binding of what is joined behind it.
For every test of equality and all sources, the faults that are seen of the join can be marked with
the places of their sources. Each is then a fault of the source at its place. If the walk through
the join finishes, as it does whenever the test answers for all values and the sources finish, the
marked faults are all that it shows, and those of one place are the whole sequence of the source's
faults, once for every binding of the join of the sources behind it; so the last source shows its
faults exactly once. Otherwise what is seen of them is a front part. -/
theorem faults_joinAll (equal : EqualityTest) (sources : List Source) :
    (∃ marked : List (Nat × Error),
      (joinAll sources).faults equal <+: marked.map Prod.snd ∧
      (∀ entry ∈ marked,
        ∃ source, sources[entry.1]? = some source ∧ entry.2 ∈ source.faults equal) ∧
      (((joinAll sources).walk equal).Finishes →
        (joinAll sources).faults equal = marked.map Prod.snd ∧
        (∀ place source, sources[place]? = some source →
          (marked.filter fun entry => entry.1 == place).map Prod.snd =
            ((joinAll (sources.drop (place + 1))).bindings equal).flatMap
              fun _ => source.faults equal) ∧
        ∀ front last, sources = front ++ [last] →
          (marked.filter fun entry => entry.1 == front.length).map Prod.snd =
            last.faults equal)) ∧
    (((joinAll sources).walk equal).Finishes →
      ((joinAll sources).faults equal).length =
        ∑ place : Fin sources.length, (sources[place].faults equal).length *
          ((joinAll (sources.drop (place + 1))).bindings equal).length) ∧
    (equal.Total → (∀ source ∈ sources, (source.walk equal).Finishes) →
      ((joinAll sources).walk equal).Finishes) := by
  refine ⟨⟨Event.placedFaults (Event.joinedFrom equal
    (sources.map fun source => (source.walk equal).elements)), ?_, ?_, fun finishes => ?_⟩,
    length_faults_joinAll, fun total => finishes_joinAll total sources⟩
  · rw [Event.map_snd_placedFaults, Event.map_snd_joinedFrom, List.foldr_map]
    exact (follows_joinAll equal sources).1.filterMap _
  · rintro ⟨place, error⟩ shown
    obtain ⟨events, here, own⟩ := Event.exists_of_mem_placedFaults equal shown
    rw [List.getElem?_map, Option.map_eq_some_iff] at here
    obtain ⟨source, isSource, rfl⟩ := here
    exact ⟨source, isSource, own⟩
  · have each : ∀ place source, sources[place]? = some source → Event.shownAt place
        (Event.placedFaults (Event.joinedFrom equal
          (sources.map fun source => (source.walk equal).elements))) =
        ((joinAll (sources.drop (place + 1))).bindings equal).flatMap
          fun _ => source.faults equal := by
      intro place source here
      have behind := finishes_joinAll_drop finishes (place + 1)
      have listed : (sources.map fun source => (source.walk equal).elements)[place]? =
          some (source.walk equal).elements := by
        rw [List.getElem?_map, here, Option.map_some]
      rw [Event.shownAt_joinedFrom equal listed, bindings, elements_joinAll behind, joinedElements,
        List.map_drop]
      rfl
    refine ⟨?_, each, fun front last split => ?_⟩
    · rw [Event.map_snd_placedFaults, Event.map_snd_joinedFrom, faults, elements_joinAll finishes,
        joinedElements]
    · subst split
      have once := each front.length last (by rw [List.getElem?_concat_length])
      rw [List.drop_eq_nil_of_le (by rw [List.length_append]; rfl)] at once
      exact once.trans (List.append_nil _)

end Source

end GraphPattern
