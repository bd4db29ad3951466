import GraphPattern.Proofs.Listing
import Mathlib.Data.List.Sections

/-!
# What a join of many sources gives

A join of a list of sources takes one binding from each. Which tuples of
bindings it accepts is not visible in its definition, since every binding meets
the merge of all that stand behind it: a value is compared with the one that
the nearest later binding gives the same variable, and with no other.

Main statement: the bindings of a join are the merges of the accepted tuples,
the choice from the first source varying fastest. The test of equality may be
any test at all.
-/

namespace GraphPattern

namespace Binding

/-- What a variable is given at a place of a tuple of bindings. -/
def valueAt (tuple : List Binding) (index : Nat) (name : String) : Option Value :=
  tuple[index]?.bind fun binding => binding.get? name

/-- A tuple of bindings is accepted: wherever two of its bindings bind a variable that none between
them binds, their values pass the test, the later value being the first in it. -/
def Accepted (equal : EqualityTest) (tuple : List Binding) : Prop :=
  ∀ (name : String) (i j : Nat) (earlier later : Value), i < j →
    valueAt tuple i name = some earlier → valueAt tuple j name = some later →
    (∀ m, i < m → m < j → valueAt tuple m name = none) → equal.holds later earlier = true

/-- A merge gives a variable a value exactly when the value is given at some place and none is
given before it. -/
theorem get?_mergeAll_eq_some_iff (tuple : List Binding) (name : String) (value : Value) :
    (mergeAll tuple).get? name = some value ↔
      ∃ index, valueAt tuple index name = some value ∧
        ∀ m, m < index → valueAt tuple m name = none := by
  induction tuple with
  | nil =>
    constructor
    · intro found
      cases found
    · rintro ⟨index, found, _⟩
      cases found
  | cons binding rest ih =>
    rw [mergeAll_cons, get?_merged]
    cases bound : binding.get? name with
    | some first =>
      rw [Option.some_or]
      have head : valueAt (binding :: rest) 0 name = some first := bound
      constructor
      · intro same
        exact ⟨0, head.trans same, fun m before => absurd before (Nat.not_lt_zero m)⟩
      · rintro ⟨index, found, before⟩
        cases index with
        | zero => exact head.symm.trans found
        | succ index =>
          have nothing := before 0 (Nat.succ_pos index)
          rw [head] at nothing
          cases nothing
    | none =>
      rw [Option.none_or, ih]
      have head : valueAt (binding :: rest) 0 name = none := bound
      constructor
      · rintro ⟨index, found, before⟩
        refine ⟨index + 1, found, fun m less => ?_⟩
        cases m with
        | zero => exact head
        | succ m => exact before m (Nat.lt_of_succ_lt_succ less)
      · rintro ⟨index, found, before⟩
        cases index with
        | zero =>
          rw [head] at found
          cases found
        | succ index =>
          exact ⟨index, found, fun m less => before (m + 1) (Nat.succ_lt_succ less)⟩

/-- A tuple with one more binding in front is accepted exactly when the tuple was and the new
binding agrees with the merge of it. -/
theorem accepted_cons_iff (equal : EqualityTest) (binding : Binding) (rest : List Binding) :
    Accepted equal (binding :: rest) ↔
      Accepted equal rest ∧ binding.agrees equal (mergeAll rest) = true := by
  rw [agrees_iff]
  constructor
  · intro accepted
    refine ⟨fun name i j earlier later less first second between => ?_,
      fun name later earlier merged bound => ?_⟩
    · refine accepted name (i + 1) (j + 1) earlier later (Nat.succ_lt_succ less) first second ?_
      intro m above below
      cases m with
      | zero => exact absurd above (Nat.not_lt_zero _)
      | succ m => exact between m (Nat.lt_of_succ_lt_succ above) (Nat.lt_of_succ_lt_succ below)
    · obtain ⟨index, found, before⟩ := (get?_mergeAll_eq_some_iff rest name later).1 merged
      refine accepted name 0 (index + 1) earlier later (Nat.succ_pos index) bound found ?_
      intro m above below
      cases m with
      | zero => exact absurd above (Nat.lt_irrefl 0)
      | succ m => exact before m (Nat.lt_of_succ_lt_succ below)
  · rintro ⟨accepted, agreeing⟩ name i j earlier later less first second between
    cases j with
    | zero => exact absurd less (Nat.not_lt_zero i)
    | succ j =>
      cases i with
      | zero =>
        -- Nothing between the two means that the later value is the merged one.
        have merged : (mergeAll rest).get? name = some later :=
          (get?_mergeAll_eq_some_iff rest name later).2 ⟨j, second, fun m before =>
            between (m + 1) (Nat.succ_pos m) (Nat.succ_lt_succ before)⟩
        exact agreeing name later earlier merged first
      | succ i =>
        exact accepted name i j earlier later (Nat.lt_of_succ_lt_succ less) first second
          fun m above below => between (m + 1) (Nat.succ_lt_succ above) (Nat.succ_lt_succ below)

/-- Decides whether a tuple is accepted, binding by binding. -/
def accepts (equal : EqualityTest) : List Binding → Bool
  | [] => true
  | binding :: rest => accepts equal rest && binding.agrees equal (mergeAll rest)

/-- The decision is right. -/
theorem accepts_iff (equal : EqualityTest) (tuple : List Binding) :
    accepts equal tuple = true ↔ Accepted equal tuple := by
  induction tuple with
  | nil =>
    refine ⟨fun _ name i j earlier later less first => ?_, fun _ => rfl⟩
    cases first
  | cons binding rest ih => rw [accepts, Bool.and_eq_true, ih, accepted_cons_iff]

instance (equal : EqualityTest) (tuple : List Binding) : Decidable (Accepted equal tuple) :=
  decidable_of_iff _ (accepts_iff equal tuple)

/-- The merges of the accepted tuples that take one binding from each list. The choice from the
last list is the outermost, and that from the first list the innermost. -/
def acceptedMerges (equal : EqualityTest) (lists : List (List Binding)) : List Binding :=
  (lists.sections.filter fun tuple => Accepted equal tuple).map mergeAll

/-- One more list in front is gone through for every merge of the others. -/
theorem acceptedMerges_cons (equal : EqualityTest) (list : List Binding)
    (lists : List (List Binding)) :
    acceptedMerges equal (list :: lists) =
      (acceptedMerges equal lists).flatMap fun extension =>
        (list.filter (agrees equal · extension)).map (merged · extension) := by
  have tail : ∀ tuple : List Binding,
      ((list.map (· :: tuple)).filter fun tuple => Accepted equal tuple).map mergeAll =
        if Accepted equal tuple then
          (list.filter (agrees equal · (mergeAll tuple))).map (merged · (mergeAll tuple))
        else [] := by
    intro tuple
    rw [List.filter_map, List.map_map]
    by_cases accepted : Accepted equal tuple
    · rw [if_pos accepted]
      congr 1
      refine List.filter_congr fun binding _ => ?_
      rw [Function.comp_apply, Bool.eq_iff_iff, decide_eq_true_iff, accepted_cons_iff]
      exact ⟨And.right, And.intro accepted⟩
    · rw [if_neg accepted]
      have none :
          list.filter ((fun tuple => decide (Accepted equal tuple)) ∘ (· :: tuple)) = [] := by
        rw [List.filter_eq_nil_iff]
        intro binding _ longer
        rw [Function.comp_apply, decide_eq_true_iff, accepted_cons_iff] at longer
        exact accepted longer.1
      rw [none, List.map_nil]
  unfold acceptedMerges
  rw [List.sections, List.filter_flatMap, List.map_flatMap]
  induction lists.sections with
  | nil => rfl
  | cons tuple others ih =>
    rw [List.flatMap_cons, ih, tail, List.filter_cons]
    by_cases accepted : Accepted equal tuple
    · rw [if_pos accepted, if_pos (decide_eq_true accepted), List.map_cons, List.flatMap_cons]
    · rw [if_neg accepted, if_neg (by simpa using accepted), List.nil_append]

end Binding

namespace Source

/-- The bindings that a walk through a source shows, in order. -/
def bindings (equal : EqualityTest) (source : Source) : List Binding :=
  Event.bindings (source.walk equal).elements

/-- A join of sources follows the joined events of each, whatever errors end it. -/
theorem follows_joinAll (equal : EqualityTest) (sources : List Source) :
    ((joinAll sources).walk equal).Follows
      (sources.foldr (fun source => Event.joined equal (source.walk equal).elements)
        [.binding .empty]) := by
  induction sources with
  | nil => exact Walk.follows_one _
  | cons source rest ih => exact follows_joined equal (Walk.follows_elements _) ih

/-- Joining events binding by binding merges the accepted tuples of their bindings. -/
theorem bindings_foldr_joined (equal : EqualityTest) (lists : List (List Event)) :
    Event.bindings (lists.foldr (Event.joined equal) [.binding .empty]) =
      Binding.acceptedMerges equal (lists.map Event.bindings) := by
  induction lists with
  | nil =>
    have accepted : Binding.Accepted equal [] := (Binding.accepts_iff equal []).1 rfl
    rw [List.map_nil, Binding.acceptedMerges, List.sections, List.filter_cons,
      if_pos (decide_eq_true accepted)]
    rfl
  | cons list lists ih =>
    rw [List.foldr_cons, Event.bindings_joined, ih, List.map_cons, Binding.acceptedMerges_cons]

/-- The joined events of sources have the merges of the accepted tuples as their bindings. -/
theorem bindings_joinedElements (equal : EqualityTest) (sources : List Source) :
    Event.bindings
        (sources.foldr (fun source => Event.joined equal (source.walk equal).elements)
          [.binding .empty]) =
      Binding.acceptedMerges equal (sources.map (bindings equal)) := by
  have mapped := bindings_foldr_joined equal
    (sources.map fun source => (source.walk equal).elements)
  rwa [List.foldr_map, List.map_map] at mapped

/-- What is seen of a join is a front part of the merges of the accepted tuples. -/
theorem bindings_joinAll_front (equal : EqualityTest) (sources : List Source) :
    bindings equal (joinAll sources) <+:
      Binding.acceptedMerges equal (sources.map (bindings equal)) := by
  rw [← bindings_joinedElements]
  exact (follows_joinAll equal sources).1.filterMap _

/-- A join that finishes shows the merges of all accepted tuples. -/
theorem bindings_joinAll_of_finishes {equal : EqualityTest} {sources : List Source}
    (finishes : ((joinAll sources).walk equal).Finishes) :
    bindings equal (joinAll sources) =
      Binding.acceptedMerges equal (sources.map (bindings equal)) := by
  rw [bindings, (follows_joinAll equal sources).2 finishes, bindings_joinedElements]

/-- A join of sources that all finish does so under a test that answers for all values. -/
theorem finishes_joinAll {equal : EqualityTest} (total : equal.Total) (sources : List Source)
    (finish : ∀ source ∈ sources, (source.walk equal).Finishes) :
    ((joinAll sources).walk equal).Finishes := by
  induction sources with
  | nil => rfl
  | cons source rest ih =>
    rw [List.forall_mem_cons] at finish
    exact finishes_joined total finish.1 (ih finish.2)

/-- The bindings of a join are the merges of the accepted tuples. For every test of equality
and all sources, what a walk through the join shows is a front part of the merges of the accepted
tuples of the sources' bindings, and all of them if it finishes, as it does whenever the test
answers for all values and the sources finish. Other sources with the same bindings give the same
join, whatever their faults. A merge gives each variable the value of the first binding that binds
it, and its variables stand in the order of their first appearance. -/
theorem bindings_joinAll (equal : EqualityTest) (sources : List Source) :
    bindings equal (joinAll sources) <+:
        Binding.acceptedMerges equal (sources.map (bindings equal)) ∧
      (((joinAll sources).walk equal).Finishes →
        bindings equal (joinAll sources) =
          Binding.acceptedMerges equal (sources.map (bindings equal))) ∧
      (equal.Total → (∀ source ∈ sources, (source.walk equal).Finishes) →
        ((joinAll sources).walk equal).Finishes) ∧
      (∀ others : List Source, others.map (bindings equal) = sources.map (bindings equal) →
        ((joinAll others).walk equal).Finishes → ((joinAll sources).walk equal).Finishes →
        bindings equal (joinAll others) = bindings equal (joinAll sources)) ∧
      (∀ tuple name, (Binding.mergeAll tuple).get? name =
        tuple.findSome? fun binding => binding.get? name) ∧
      ∀ tuple, (Binding.mergeAll tuple).keys = (tuple.flatMap Binding.keys).eraseDups := by
  refine ⟨bindings_joinAll_front equal sources, bindings_joinAll_of_finishes,
    fun total => finishes_joinAll total sources, fun others same ends finishes => ?_,
    Binding.get?_mergeAll, Binding.keys_mergeAll⟩
  rw [bindings_joinAll_of_finishes ends, same, bindings_joinAll_of_finishes finishes]

end Source

end GraphPattern
