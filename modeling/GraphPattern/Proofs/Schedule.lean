import GraphPattern.Source.Enumeration

/-!
# The schedule of an enumeration

An enumeration compares values, shows events and may raise errors. The schedule
of a source lists these steps in the order in which they come up, by list
operations alone and without regard to errors: behind an error stand the steps
that would come if it had not been raised. Nothing in it is lazy. A number of
enumerations of a source stands there as often, and the left source of a join
stands there once for every binding on the right.

Walking through a source takes the steps of its schedule until the first error,
and someone who asks for a number of events takes them until the last of these
has been shown.

Main statement: the first events that are asked for are the first ones of the
complete walk, and an error is met only if more events are asked for than stand
in front of it. The test of equality may be any test at all and may fail.
-/

namespace GraphPattern

/-- What happens at one point of an enumeration. -/
inductive Step (α : Type) where
  /-- Two values are compared. -/
  | comparison (first second : Value)
  /-- An element is shown. -/
  | display (element : α)
  /-- An error is raised. -/
  | failure (error : Error)

namespace Step

variable {α β : Type}

/-- The values, if the step compares two. -/
def pair? : Step α → Option (Value × Value)
  | comparison first second => some (first, second)
  | display _ | failure _ => none

/-- The element, if the step shows one. -/
def element? : Step α → Option α
  | display element => some element
  | comparison _ _ | failure _ => none

/-- The error, if the step raises one. -/
def error? : Step α → Option Error
  | failure error => some error
  | comparison _ _ | display _ => none

/-- The steps in the place of one step: others where an element is shown, else the step itself. -/
def inPlace (image : α → List (Step β)) : Step α → List (Step β)
  | comparison first second => [comparison first second]
  | display element => image element
  | failure error => [failure error]

/-- The steps of comparing pairs in order and showing an element if all are equal; the first pair
that differs is the last step, and a test that fails raises its error. -/
def agreeing (equal : EqualityTest) (element : α) : List (Value × Value) → List (Step α)
  | [] => [display element]
  | (first, second) :: rest =>
    comparison first second ::
      match equal first second with
      | .error error => [failure error]
      | .ok true => agreeing equal element rest
      | .ok false => []

/-- The steps until a number of elements has been shown. -/
def front : Nat → List (Step α) → List (Step α)
  | 0, _ => []
  | _ + 1, [] => []
  | count + 1, comparison first second :: rest =>
    comparison first second :: front (count + 1) rest
  | count + 1, display element :: rest => display element :: front count rest
  | count + 1, failure error :: rest => failure error :: front (count + 1) rest

end Step

/-- What is seen of steps that are taken until the first of them raises an error. -/
def Observation.ofSteps {α : Type} (steps : List (Step α)) : Observation α :=
  let taken := steps.takeWhile fun step => step.error?.isNone
  ⟨taken.filterMap Step.element?, taken.filterMap Step.pair?, steps.findSome? Step.error?⟩

namespace Event

/-- The steps of merging a binding into an event that it is compatible with. -/
def extendedSteps (equal : EqualityTest) (extension : Binding) : Event → List (Step Event)
  | binding bound =>
    Step.agreeing equal (binding (bound.merged extension)) (bound.shared extension)
  | fault error => [.display (fault error)]

/-- The steps in the place of one event on the right of a join. -/
def joinedSteps (equal : EqualityTest) (left : List (Step Event)) : Event → List (Step Event)
  | binding extension => left.flatMap (Step.inPlace (extendedSteps equal extension))
  | fault error => [.display (fault error)]

end Event

namespace Source

mutual

/-- The steps of going through a source, whatever errors are raised on the way. -/
def schedule (equal : EqualityTest) : Source → List (Step Event)
  | compatible => [.display (.binding .empty)]
  | incompatible => []
  | single binding => [.display (.binding binding)]
  | table bindings => bindings.map fun binding => .display (.binding binding)
  | multiply source times => (List.replicate times (schedule equal source)).flatten
  | union sources => scheduleAll equal sources
  | extend source binding =>
    (schedule equal source).flatMap (Step.inPlace (Event.extendedSteps equal binding))
  | join left right =>
    (schedule equal right).flatMap (Step.inPlace (Event.joinedSteps equal (schedule equal left)))
  | project source kept =>
    (schedule equal source).flatMap (Step.inPlace fun event => [.display (event.restricted kept)])
  | failure fault => [.display (.fault fault)]
  | unknown => [.failure .unknownSource]

/-- The steps of going through sources, one source behind the other. -/
def scheduleAll (equal : EqualityTest) : List Source → List (Step Event)
  | [] => []
  | source :: rest => schedule equal source ++ scheduleAll equal rest

end

end Source

namespace Observation

variable {α : Type}

/-- A comparison comes first. -/
theorem ofSteps_comparison (first second : Value) (rest : List (Step α)) :
    ofSteps (.comparison first second :: rest) =
      ⟨(ofSteps rest).elements, (first, second) :: (ofSteps rest).comparisons,
        (ofSteps rest).error⟩ := rfl

/-- An element comes first. -/
theorem ofSteps_display (element : α) (rest : List (Step α)) :
    ofSteps (.display element :: rest) =
      ⟨element :: (ofSteps rest).elements, (ofSteps rest).comparisons, (ofSteps rest).error⟩ := rfl

/-- The first elements that are shown are the first of all elements. -/
theorem elements_ofSteps_front (count : Nat) (steps : List (Step α)) :
    (ofSteps (Step.front count steps)).elements = (ofSteps steps).elements.take count := by
  induction steps generalizing count with
  | nil => cases count <;> rfl
  | cons step rest ih =>
    cases count with
    | zero => rfl
    | succ count =>
      cases step with
      | comparison first second => exact ih (count + 1)
      | display element => exact congrArg (element :: ·) (ih count)
      | failure error => rfl

/-- An error is met only behind the last of the elements that stand in front of it. -/
theorem error_ofSteps_front (count : Nat) (steps : List (Step α)) :
    (ofSteps (Step.front count steps)).error =
      if count ≤ (ofSteps steps).elements.length then none else (ofSteps steps).error := by
  induction steps generalizing count with
  | nil => cases count <;> rfl
  | cons step rest ih =>
    cases count with
    | zero => rfl
    | succ count =>
      cases step with
      | comparison first second => exact ih (count + 1)
      | display element =>
        rw [Step.front, ofSteps_display, ofSteps_display, List.length_cons]
        simp only [Nat.add_le_add_iff_right]
        exact ih count
      | failure error => rfl

/-- No other comparisons are made than those of all steps, in their order. -/
theorem comparisons_ofSteps_front (count : Nat) (steps : List (Step α)) :
    (ofSteps (Step.front count steps)).comparisons <+: (ofSteps steps).comparisons := by
  induction steps generalizing count with
  | nil => cases count <;> exact List.nil_prefix
  | cons step rest ih =>
    cases count with
    | zero => exact List.nil_prefix
    | succ count =>
      cases step with
      | comparison first second => exact List.cons_prefix_cons.2 ⟨rfl, ih (count + 1)⟩
      | display element => exact ih count
      | failure error => exact List.nil_prefix

end Observation

namespace Walk

variable {α β : Type}

/-- A walk takes steps in order until the first of them raises an error. -/
inductive Takes : Walk α → List (Step α) → Prop where
  /-- Nothing follows. -/
  | done : Takes done []
  /-- The steps behind an error are not taken. -/
  | failed (error : Error) (later : List (Step α)) : Takes (failed error) (.failure error :: later)
  /-- A comparison comes first. -/
  | compared {first second : Value} {rest : Unit → Walk α} {steps : List (Step α)}
      (later : Takes (rest ()) steps) :
      Takes (compared first second rest) (.comparison first second :: steps)
  /-- An element comes first. -/
  | emit {element : α} {rest : Unit → Walk α} {steps : List (Step α)}
      (later : Takes (rest ()) steps) : Takes (emit element rest) (.display element :: steps)

namespace Takes

variable {walk : Walk α} {steps : List (Step α)}

/-- One element is one step. -/
theorem one (element : α) : (Walk.one element).Takes [.display element] := .emit .done

/-- Elements of a list are shown one by one. -/
theorem ofList (change : α → β) (list : List α) :
    ((Walk.ofList list).map change).Takes (list.map fun element => .display (change element)) := by
  induction list with
  | nil => exact .done
  | cons element rest ih => exact .emit ih

/-- One walk behind another takes the steps of both. -/
theorem append {next : Unit → Walk α} {others : List (Step α)} (first : walk.Takes steps)
    (second : (next ()).Takes others) : (walk.append next).Takes (steps ++ others) := by
  induction first with
  | done => exact second
  | failed error later => exact .failed error _
  | compared later ih => exact .compared ih
  | emit later ih => exact .emit ih

/-- A walk in the place of every element takes its steps there. -/
theorem bind {next : α → Walk β} {image : α → List (Step β)} (outer : walk.Takes steps)
    (inner : ∀ element, (next element).Takes (image element)) :
    (walk.bind next).Takes (steps.flatMap (Step.inPlace image)) := by
  induction outer with
  | done => exact .done
  | failed error later => exact .failed error _
  | compared later ih => exact .compared ih
  | @emit element rest steps later ih => exact (inner element).append ih

/-- Changed elements are shown in the place of the others. -/
theorem map (change : α → β) (taken : walk.Takes steps) :
    (walk.map change).Takes
      (steps.flatMap (Step.inPlace fun element => [.display (change element)])) := by
  induction taken with
  | done => exact .done
  | failed error later => exact .failed error _
  | compared later ih => exact .compared ih
  | emit later ih => exact .emit ih

/-- Copies of a walk take its steps as often. -/
theorem copies (taken : walk.Takes steps) (times : Nat) :
    (walk.copies times).Takes (List.replicate times steps).flatten := by
  induction times with
  | zero => exact .done
  | succ times ih =>
    rw [List.replicate_succ, List.flatten_cons]
    exact taken.append ih

/-- Pairs are compared up to the first that differs. -/
theorem agreeing (equal : EqualityTest) (element : α) (pairs : List (Value × Value)) :
    (Walk.agreeing equal element pairs).Takes (Step.agreeing equal element pairs) := by
  induction pairs with
  | nil => exact one element
  | cons pair rest ih =>
    obtain ⟨first, second⟩ := pair
    refine .compared ?_
    cases equal first second with
    | error error => exact .failed error []
    | ok same =>
      cases same with
      | true => exact ih
      | false => exact .done

/-- Whoever goes through a whole walk sees the steps that it takes. -/
theorem observe_eq (taken : walk.Takes steps) : walk.observe = .ofSteps steps := by
  induction taken with
  | done => rfl
  | failed error later => rfl
  | compared later ih => rw [observe, ih, Observation.ofSteps_comparison]
  | emit later ih => rw [observe, ih, Observation.ofSteps_display]

/-- Whoever asks for a number of elements sees the steps until the last of them has been shown. -/
theorem observeFirst_eq (taken : walk.Takes steps) (count : Nat) :
    walk.observeFirst count = .ofSteps (Step.front count steps) := by
  induction taken generalizing count with
  | done => cases count <;> rfl
  | failed error later => cases count <;> rfl
  | compared later ih =>
    cases count with
    | zero => rfl
    | succ count => rw [observeFirst, ih, Step.front, Observation.ofSteps_comparison]
  | emit later ih =>
    cases count with
    | zero => rfl
    | succ count => rw [observeFirst, ih, Step.front, Observation.ofSteps_display]

end Takes

end Walk

/-- Merging a binding into an event takes its steps. -/
theorem Event.takes_extended (equal : EqualityTest) (extension : Binding) (event : Event) :
    (event.extended equal extension).Takes (event.extendedSteps equal extension) := by
  cases event with
  | binding bound => exact .agreeing equal _ _
  | fault error => exact .one _

namespace Source

mutual

/-- Walking through a source takes the steps of its schedule. -/
theorem takes_schedule (equal : EqualityTest) :
    ∀ source : Source, (source.walk equal).Takes (source.schedule equal)
  | compatible => .one _
  | incompatible => .done
  | single _ => .one _
  | table bindings => .ofList Event.binding bindings
  | multiply source times => (takes_schedule equal source).copies times
  | union sources => takes_scheduleAll equal sources
  | extend source binding =>
    (takes_schedule equal source).bind (Event.takes_extended equal binding)
  | join left right =>
    (takes_schedule equal right).bind fun event =>
      match event with
      | .binding extension =>
        (takes_schedule equal left).bind (Event.takes_extended equal extension)
      | .fault _ => .one _
  | project source kept => (takes_schedule equal source).map (Event.restricted kept)
  | failure _ => .one _
  | unknown => .failed _ _

/-- Walking through sources takes the steps of their schedules. -/
theorem takes_scheduleAll (equal : EqualityTest) :
    ∀ sources : List Source, (walkAll equal sources).Takes (scheduleAll equal sources)
  | [] => .done
  | source :: rest => (takes_schedule equal source).append (takes_scheduleAll equal rest)

end

/-- What is asked for of an enumeration is the front of the whole. For every test of equality,
one that fails included, and every source, the complete walk shows the elements of the schedule
that stand in front of its first error, and ends with that error. Whoever asks for a number of
events sees what is in the schedule up to the last of them: these are the first events of the
complete walk. An error is met only if fewer events than were asked for stand in front of it, and
no comparison is made that the complete walk does not make in the same order. -/
theorem observeFirst_walk (equal : EqualityTest) (source : Source) (count : Nat) :
    let schedule := source.schedule equal
    let complete := (source.walk equal).observe
    let seen := (source.walk equal).observeFirst count
    complete = .ofSteps schedule ∧
    seen = .ofSteps (Step.front count schedule) ∧
    seen.elements = complete.elements.take count ∧
    seen.error = (if count ≤ complete.elements.length then none else complete.error) ∧
    seen.comparisons <+: complete.comparisons := by
  intro schedule complete seen
  have whole : complete = .ofSteps schedule := (takes_schedule equal source).observe_eq
  have asked : seen = .ofSteps (Step.front count schedule) :=
    (takes_schedule equal source).observeFirst_eq count
  refine ⟨whole, asked, ?_⟩
  rw [whole, asked]
  exact ⟨Observation.elements_ofSteps_front count schedule,
    Observation.error_ofSteps_front count schedule,
    Observation.comparisons_ofSteps_front count schedule⟩

/-- The unknown source behind the one event that is asked for is not met. -/
example (equal : EqualityTest) :
    ((union [single .empty, unknown]).walk equal).observeFirst 1 = ⟨[.binding .empty], [], none⟩ :=
  rfl

end Source

end GraphPattern
