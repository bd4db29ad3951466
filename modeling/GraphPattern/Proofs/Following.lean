import GraphPattern.Source.Enumeration

/-!
# Walks along lists

A walk shows its elements one by one and may end in an error. `Walk.Follows`
relates it to the list that it would show without errors: what is seen is a
front part of the list, and all of it if the walk finishes. Every way of
putting walks together follows the list that is put together the same way, so
an enumeration can be studied as a list, whatever its errors.

`Walk.Unbroken` says of a walk that only a comparison without an answer can end
it in an error, and walks that are put together from such walks are such again.
-/

namespace GraphPattern

namespace EqualityTest

/-- Whether two values pass a test; a test that fails is not passed. -/
def holds (equal : EqualityTest) (first second : Value) : Bool :=
  match equal first second with
  | .ok truth => truth
  | .error _ => false

/-- A test that answers for all values. -/
def Total (equal : EqualityTest) : Prop := ∀ first second, ∃ truth, equal first second = .ok truth

/-- A test that answers gives the truth that it is said to hold. -/
theorem Total.eq_ok {equal : EqualityTest} (total : equal.Total) (first second : Value) :
    equal first second = .ok (equal.holds first second) := by
  obtain ⟨truth, answer⟩ := total first second
  rw [holds, answer]

end EqualityTest

namespace Walk

variable {α β : Type}

/-- The walk reaches its end without an error. -/
def Finishes (walk : Walk α) : Prop := walk.observe.error = none

/-- The walk shows a list in order: a front part of it, and all of it unless an error ends the
walk. -/
def Follows (walk : Walk α) (list : List α) : Prop :=
  walk.elements <+: list ∧ (walk.Finishes → walk.elements = list)

/-- A walk follows its own elements. -/
theorem follows_elements (walk : Walk α) : walk.Follows walk.elements :=
  ⟨List.prefix_refl _, fun _ => rfl⟩

/-- A walk that has ended follows the empty list. -/
theorem follows_done : (done : Walk α).Follows [] := follows_elements done

/-- A walk that fails at once follows every list. -/
theorem follows_failed (error : Error) (list : List α) : (failed error).Follows list :=
  ⟨List.nil_prefix, fun finishes => nomatch finishes⟩

/-- An element comes first in the list that is followed, and the rest of the walk follows the rest
of the list. -/
theorem follows_emit_iff {element : α} {rest : Unit → Walk α} {list : List α} :
    (emit element rest).Follows list ↔
      ∃ others, list = element :: others ∧ (rest ()).Follows others := by
  constructor
  · rintro ⟨front, whole⟩
    obtain ⟨back, joined⟩ := front
    refine ⟨(rest ()).elements ++ back, joined.symm, ⟨back, rfl⟩, fun finishes => ?_⟩
    have all : element :: (rest ()).elements = list := whole finishes
    rw [← joined] at all
    exact List.tail_eq_of_cons_eq all
  · rintro ⟨others, rfl, front, whole⟩
    refine ⟨List.cons_prefix_cons.2 ⟨rfl, front⟩, fun finishes => ?_⟩
    show element :: (rest ()).elements = element :: others
    rw [whole finishes]

/-- The walk of one element follows that element. -/
theorem follows_one (element : α) : (one element).Follows [element] :=
  follows_emit_iff.2 ⟨[], rfl, follows_done⟩

/-- The walk through a list follows it. -/
theorem follows_ofList (list : List α) : (ofList list).Follows list := by
  induction list with
  | nil => exact follows_done
  | cons element rest ih => exact follows_emit_iff.2 ⟨rest, rfl, ih⟩

/-- One walk behind another follows one list behind the other. -/
theorem Follows.append {walk : Walk α} {next : Unit → Walk α} {list others : List α}
    (first : walk.Follows list) (second : (next ()).Follows others) :
    (walk.append next).Follows (list ++ others) := by
  induction walk generalizing list with
  | done =>
    have nothing : list = [] := (first.2 rfl).symm
    rw [nothing]
    exact second
  | failed error => exact follows_failed error _
  | compared left right rest ih => exact ih () first
  | emit element rest ih =>
    obtain ⟨tail, rfl, later⟩ := follows_emit_iff.1 first
    exact follows_emit_iff.2 ⟨tail ++ others, rfl, ih () later⟩

/-- A walk in the place of every element follows a list in the place of every element. -/
theorem Follows.bind {walk : Walk α} {list : List α} {next : α → Walk β} {image : α → List β}
    (outer : walk.Follows list) (inner : ∀ element ∈ list, (next element).Follows (image element)) :
    (walk.bind next).Follows (list.flatMap image) := by
  induction walk generalizing list with
  | done =>
    have nothing : list = [] := (outer.2 rfl).symm
    rw [nothing]
    exact follows_done
  | failed error => exact follows_failed error _
  | compared left right rest ih => exact ih () outer inner
  | emit element rest ih =>
    obtain ⟨tail, rfl, later⟩ := follows_emit_iff.1 outer
    rw [List.flatMap_cons]
    exact (inner element List.mem_cons_self).append
      (ih () later fun other member => inner other (List.mem_cons_of_mem _ member))

/-- A changed walk finishes exactly when the walk does. -/
theorem finishes_map_iff (change : α → β) (walk : Walk α) :
    (walk.map change).Finishes ↔ walk.Finishes := by
  rw [Finishes, observe_map, Finishes]

/-- Changed elements follow the changed list. -/
theorem Follows.map {walk : Walk α} {list : List α} (change : α → β)
    (followed : walk.Follows list) : (walk.map change).Follows (list.map change) := by
  have elements : (walk.map change).elements = walk.elements.map change :=
    congrArg Observation.elements (observe_map change walk)
  refine ⟨?_, fun ends => ?_⟩
  · rw [elements]
    exact followed.1.map change
  · rw [elements, followed.2 ((finishes_map_iff change walk).1 ends)]

/-- Several copies follow several copies of the list. -/
theorem Follows.copies {walk : Walk α} {list : List α} (followed : walk.Follows list)
    (times : Nat) : (walk.copies times).Follows (List.replicate times list).flatten := by
  induction times with
  | zero => exact follows_done
  | succ times ih =>
    rw [List.replicate_succ, List.flatten_cons]
    exact followed.append ih

/-- Comparing pairs shows the element exactly if every pair passes. -/
theorem elements_agreeing (equal : EqualityTest) (element : α) (pairs : List (Value × Value)) :
    (agreeing equal element pairs).elements =
      if pairs.all fun pair => equal.holds pair.1 pair.2 then [element] else [] := by
  induction pairs with
  | nil => rfl
  | cons pair rest ih =>
    obtain ⟨first, second⟩ := pair
    rw [List.all_cons, EqualityTest.holds, elements, agreeing, observe]
    cases equal first second with
    | error error => rfl
    | ok truth =>
      cases truth with
      | true => exact ih
      | false => rfl

/-- Comparing pairs follows the element if every pair passes, and otherwise nothing. -/
theorem follows_agreeing (equal : EqualityTest) (element : α) (pairs : List (Value × Value)) :
    (agreeing equal element pairs).Follows
      (if pairs.all fun pair => equal.holds pair.1 pair.2 then [element] else []) := by
  rw [← elements_agreeing]
  exact follows_elements _

/-- One walk behind another finishes exactly when both do. -/
theorem finishes_append_iff (walk : Walk α) (next : Unit → Walk α) :
    (walk.append next).Finishes ↔ walk.Finishes ∧ (next ()).Finishes := by
  unfold Finishes
  rw [observe_append, Observation.followedBy]
  cases ended : walk.observe.error with
  | none => simp
  | some error => simp [ended]

/-- A walk in the place of every element finishes exactly when the outer walk and all those in it
do. -/
theorem finishes_bind_iff (walk : Walk α) (next : α → Walk β) :
    (walk.bind next).Finishes ↔
      walk.Finishes ∧ ∀ element ∈ walk.elements, (next element).Finishes := by
  induction walk with
  | done => simp [bind, Finishes, elements, observe]
  | failed error => simp [bind, Finishes, observe]
  | compared first second rest ih => exact ih ()
  | emit element rest ih =>
    rw [bind, finishes_append_iff, ih]
    show _ ↔ (rest ()).Finishes ∧ ∀ other ∈ element :: (rest ()).elements, (next other).Finishes
    rw [List.forall_mem_cons]
    exact and_left_comm

/-- Copies of a walk that finishes do. -/
theorem Finishes.copies {walk : Walk α} (finishes : walk.Finishes) (times : Nat) :
    (walk.copies times).Finishes := by
  induction times with
  | zero => rfl
  | succ times ih => exact (finishes_append_iff walk _).2 ⟨finishes, ih⟩

/-- The walk through a list finishes. -/
theorem finishes_ofList (list : List α) : (ofList list).Finishes := by
  rw [Finishes, observe_ofList]

/-- Nothing but a comparison without an answer keeps a walk from its end. -/
def Unbroken (equal : EqualityTest) (walk : Walk α) : Prop :=
  (∀ pair ∈ walk.observe.comparisons, ∃ truth, equal pair.1 pair.2 = .ok truth) → walk.Finishes

section Unbroken

variable {equal : EqualityTest}

/-- Nothing keeps a walk that finishes from its end. -/
theorem Finishes.unbroken {walk : Walk α} (finishes : walk.Finishes) : walk.Unbroken equal :=
  fun _ => finishes

/-- A walk that only comparisons keep from its end finishes under a test that answers for all
values. -/
theorem Unbroken.finishes {walk : Walk α} (unbroken : walk.Unbroken equal) (total : equal.Total) :
    walk.Finishes :=
  unbroken fun pair _ => total pair.1 pair.2

/-- One walk behind another makes the comparisons of both, unless the first one fails. -/
theorem Unbroken.append {walk : Walk α} {next : Unit → Walk α} (first : walk.Unbroken equal)
    (second : (next ()).Unbroken equal) : (walk.append next).Unbroken equal := by
  intro answered
  rw [observe_append, Observation.followedBy] at answered
  rw [finishes_append_iff]
  cases ended : walk.observe.error with
  | some error =>
    rw [ended] at answered
    have finishes := first answered
    cases ended.symm.trans finishes
  | none =>
    rw [ended, List.forall_mem_append] at answered
    exact ⟨ended, second answered.2⟩

/-- A walk in the place of every element makes the comparisons of the outer walk and of those in
it. -/
theorem Unbroken.bind {walk : Walk α} {next : α → Walk β} (outer : walk.Unbroken equal)
    (inner : ∀ element ∈ walk.elements, (next element).Unbroken equal) :
    (walk.bind next).Unbroken equal := by
  induction walk with
  | done => exact fun _ => rfl
  | failed error =>
    have finishes := outer fun _ member => (nomatch member)
    cases finishes
  | compared first second rest ih =>
    intro answered
    obtain ⟨here, later⟩ := List.forall_mem_cons.1 answered
    have rests : (rest ()).Unbroken equal :=
      fun others => outer (List.forall_mem_cons.2 ⟨here, others⟩)
    exact ih () rests inner later
  | emit element rest ih =>
    obtain ⟨here, later⟩ := List.forall_mem_cons.1 inner
    exact Unbroken.append here (ih () outer later)

/-- Changing elements changes no comparison. -/
theorem Unbroken.map {walk : Walk α} (unbroken : walk.Unbroken equal) (change : α → β) :
    (walk.map change).Unbroken equal := by
  rw [Unbroken, observe_map, finishes_map_iff]
  exact unbroken

/-- Copies of a walk make its comparisons several times. -/
theorem Unbroken.copies {walk : Walk α} (unbroken : walk.Unbroken equal) (times : Nat) :
    (walk.copies times).Unbroken equal := by
  induction times with
  | zero => exact fun _ => rfl
  | succ times ih => exact unbroken.append ih

/-- What follows a comparison matters only if that has an answer. -/
theorem unbroken_compared {first second : Value} {rest : Unit → Walk α}
    (later : ∀ truth, equal first second = .ok truth → (rest ()).Unbroken equal) :
    (compared first second rest).Unbroken equal := by
  intro answered
  obtain ⟨⟨truth, answer⟩, others⟩ := List.forall_mem_cons.1 answered
  exact later truth answer others

/-- Comparing pairs fails only at a pair for which the test has no answer. -/
theorem unbroken_agreeing (equal : EqualityTest) (element : α) (pairs : List (Value × Value)) :
    (agreeing equal element pairs).Unbroken equal := by
  induction pairs with
  | nil => exact fun _ => rfl
  | cons pair rest ih =>
    obtain ⟨first, second⟩ := pair
    refine unbroken_compared fun truth answer => ?_
    rw [answer]
    cases truth with
    | true => exact ih
    | false => exact fun _ => rfl

end Unbroken

end Walk

end GraphPattern
