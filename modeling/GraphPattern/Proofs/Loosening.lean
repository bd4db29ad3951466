import GraphPattern.Comparison
import GraphPattern.Proofs.Listing

/-!
# Looser tests of equality

A test is looser than another if it is passed by all values that pass the other.
Under a looser test more bindings agree, so more of them are shown, and whatever
stands on the left of a join is gone through more often, its faults included.
Nothing is lost: what is shown under the stricter test is still there, in the
same order.

One walk embeds in another if its elements are some of those of the other. Every
way of putting walks together keeps them embedded, so the property of comparisons
carries over to all sources.
-/

namespace GraphPattern

namespace EqualityTest

/-- All values that pass one test pass the other. -/
def Implies (strict loose : EqualityTest) : Prop :=
  ∀ first second, strict.holds first second = true → loose.holds first second = true

end EqualityTest

namespace Walk

variable {α β : Type}

/-- If another walk finishes, then so does this one, and its elements are some of those of the
other, in order. -/
def Embeds (walk other : Walk α) : Prop :=
  other.Finishes → walk.Finishes ∧ walk.elements.Sublist other.elements

namespace Embeds

/-- A walk embeds in itself. -/
theorem refl (walk : Walk α) : walk.Embeds walk := fun finishes => ⟨finishes, .refl _⟩

/-- Walks embed in others one behind the other. -/
theorem append {walk other : Walk α} {next nextOther : Unit → Walk α} (first : walk.Embeds other)
    (second : (next ()).Embeds (nextOther ())) :
    (walk.append next).Embeds (other.append nextOther) := by
  intro finishes
  obtain ⟨otherEnds, nextOtherEnds⟩ := (finishes_append_iff _ _).1 finishes
  obtain ⟨ends, front⟩ := first otherEnds
  obtain ⟨nextEnds, back⟩ := second nextOtherEnds
  have both : (walk.append next).Finishes := (finishes_append_iff _ _).2 ⟨ends, nextEnds⟩
  refine ⟨both, ?_⟩
  have shown := ((follows_elements walk).append (follows_elements (next ()))).2 both
  have shownOther :=
    ((follows_elements other).append (follows_elements (nextOther ()))).2 finishes
  rw [shown, shownOther]
  exact front.append back

/-- Walks in the place of elements embed in others in the place of the same elements. -/
theorem bind {walk other : Walk α} {next nextOther : α → Walk β} (outer : walk.Embeds other)
    (inner : ∀ element, (next element).Embeds (nextOther element)) :
    (walk.bind next).Embeds (other.bind nextOther) := by
  intro finishes
  obtain ⟨otherEnds, innerEnds⟩ := (finishes_bind_iff _ _).1 finishes
  obtain ⟨ends, fewer⟩ := outer otherEnds
  have both : (walk.bind next).Finishes := by
    refine (finishes_bind_iff _ _).2 ⟨ends, fun element shown => ?_⟩
    exact (inner element (innerEnds element (fewer.subset shown))).1
  refine ⟨both, ?_⟩
  have shown :=
    ((follows_elements walk).bind fun element _ => follows_elements (next element)).2 both
  have shownOther :=
    ((follows_elements other).bind fun element _ => follows_elements (nextOther element)).2 finishes
  rw [shown, shownOther]
  -- Fewer elements with the same walks in their places, and then more in every place.
  have outside := fewer.flatMap fun element => (next element).elements
  refine outside.trans (List.Sublist.flatMap_right _ fun element member => ?_)
  exact (inner element (innerEnds element member)).2

/-- Changed walks embed if they did before. -/
theorem map {walk other : Walk α} (embeds : walk.Embeds other) (change : α → β) :
    (walk.map change).Embeds (other.map change) := by
  intro finishes
  obtain ⟨ends, fewer⟩ := embeds ((finishes_map_iff change other).1 finishes)
  have changedEnds : (walk.map change).Finishes := (finishes_map_iff change walk).2 ends
  refine ⟨changedEnds, ?_⟩
  have shown := ((follows_elements walk).map change).2 changedEnds
  have shownOther := ((follows_elements other).map change).2 finishes
  rw [shown, shownOther]
  exact fewer.map change

/-- Copies of a walk embed in as many copies of the other. -/
theorem copies {walk other : Walk α} (embeds : walk.Embeds other) (times : Nat) :
    (walk.copies times).Embeds (other.copies times) := by
  induction times with
  | zero => exact refl done
  | succ times ih => exact embeds.append ih

end Embeds

/-- What comparisons under a test let through is let through under a looser one. -/
theorem embeds_agreeing {strict loose : EqualityTest} (total : strict.Total)
    (implies : strict.Implies loose) (element : α) (pairs : List (Value × Value)) :
    (agreeing strict element pairs).Embeds (agreeing loose element pairs) := by
  intro _
  refine ⟨(unbroken_agreeing strict element pairs).finishes total, ?_⟩
  rw [elements_agreeing, elements_agreeing]
  by_cases passed : (pairs.all fun pair => strict.holds pair.1 pair.2) = true
  · have passedLoose : (pairs.all fun pair => loose.holds pair.1 pair.2) = true := by
      rw [List.all_eq_true] at passed ⊢
      exact fun pair member => implies pair.1 pair.2 (passed pair member)
    rw [if_pos passed, if_pos passedLoose]
  · rw [if_neg passed]
    exact List.nil_sublist _

end Walk

section Loosening

variable {strict loose : EqualityTest}

/-- What is left of an extended event is left under a looser test. -/
theorem Event.embeds_extended (total : strict.Total) (implies : strict.Implies loose)
    (extension : Binding) (event : Event) :
    (event.extended strict extension).Embeds (event.extended loose extension) := by
  cases event with
  | binding bound => exact Walk.embeds_agreeing total implies _ _
  | fault error => exact .refl _

namespace Source

mutual

/-- A walk through a source embeds in the one under a looser test. -/
theorem embeds_walk (total : strict.Total) (implies : strict.Implies loose) :
    ∀ source : Source, (source.walk strict).Embeds (source.walk loose)
  | compatible | incompatible | single _ | table _ | failure _ | unknown => .refl _
  | multiply source times => (embeds_walk total implies source).copies times
  | union sources => embeds_walkAll total implies sources
  | extend source binding =>
    (embeds_walk total implies source).bind (Event.embeds_extended total implies binding)
  | join left right => by
    refine (embeds_walk total implies right).bind fun event => ?_
    cases event with
    | binding extension =>
      exact (embeds_walk total implies left).bind (Event.embeds_extended total implies extension)
    | fault error => exact .refl _
  | project source kept => (embeds_walk total implies source).map (Event.restricted kept)

/-- A walk through sources embeds in the one under a looser test. -/
theorem embeds_walkAll (total : strict.Total) (implies : strict.Implies loose) :
    ∀ sources : List Source, (walkAll strict sources).Embeds (walkAll loose sources)
  | [] => .refl _
  | source :: rest => (embeds_walk total implies source).append (embeds_walkAll total implies rest)

end

/-- A looser test of equality loses no event. Let two tests answer for all values, and let the
second be passed wherever the first is. Whenever a source can be walked through to the end under the
second, it can under the first, and the events that it shows then, faults included, are some of
those under the second: the same bindings, with their variables, their order and their values, in
the same order and at least as often. A source without an unknown part can always be walked
through. -/
theorem elements_sublist_of_looser (total : strict.Total) (totalLoose : loose.Total)
    (implies : strict.Implies loose) (source : Source) :
    ((source.walk loose).Finishes →
      (source.walk strict).Finishes ∧
        (source.walk strict).elements.Sublist (source.walk loose).elements) ∧
    (source.Known → (source.walk loose).Finishes) :=
  ⟨embeds_walk total implies source, finishes_walk totalLoose source⟩

/-- If all values count as equal, then both bindings on the right of a join are joined and the
fault on its left is repeated. What is shown when only equal values do is among that. -/
theorem elements_sublist_of_looser_always :
    let inner : Source := join (single (.ofPairs [("x", .int 2), ("y", .int 5)]))
      (table [.single "x" (.int 3), .single "x" (.int 2)])
    let source := join
      (union [failure .beyondEnd, table [.single "x" (.int 1), .single "x" (.int 2)]]) inner
    let shown (equal : EqualityTest) := (source.walk equal).elements.map fun event =>
      event.binding?.map fun binding => (binding.keys, (binding.get? "x").bind Value.integer?)
    (source.walk .exact).elements.Sublist (source.walk .always).elements ∧
      shown .exact = [none, some (["x", "y"], some 2)] ∧
      shown .always =
        [none, some (["x", "y"], some 1), some (["x", "y"], some 2),
          none, some (["x", "y"], some 1), some (["x", "y"], some 2)] := by
  intro inner source shown
  have total : EqualityTest.exact.Total := fun first second => ⟨first.equal second, rfl⟩
  have totalLoose : EqualityTest.always.Total := fun _ _ => ⟨true, rfl⟩
  have implies : EqualityTest.exact.Implies .always := fun _ _ _ => rfl
  have known : source.Known := by simp [source, inner, Known, KnownAll]
  obtain ⟨embedded, finishes⟩ := elements_sublist_of_looser total totalLoose implies source
  refine ⟨(embedded (finishes known)).2, ?_, ?_⟩
  · clear * -
    subst shown source inner
    decide +kernel
  · clear * -
    subst shown source inner
    decide +kernel

end Source

end Loosening

end GraphPattern
