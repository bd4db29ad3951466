import GraphPattern.Proofs.Listing
import Mathlib.Data.List.Sections

/-!
# Values at the occurrences of variables

A choice for a pattern gives a value to every occurrence of a variable, in
order, and a variable may occur many times. A choice is consistent if the
values given to one variable are equal two by two, and then it stands for the
binding of every variable to its first value.

Main statement: under a test that is symmetric and transitive, a source that
filters at every join finds what filtering once at the end would find. So each
way of building sources combines choices in a simple way: a union puts lists of
choices one behind the other, a join takes all combinations.
-/

namespace GraphPattern

/-- A test that answers for all values and is symmetric and transitive. It need not be
reflexive. -/
structure EqualityTest.PartialEquivalence (equal : EqualityTest) : Prop where
  /-- The test answers for all values. -/
  total : equal.Total
  /-- The order of two values does not matter. -/
  symm : ∀ {first second}, equal.holds first second = true → equal.holds second first = true
  /-- Values equal to one value are equal. -/
  trans : ∀ {first second third}, equal.holds first second = true →
    equal.holds second third = true → equal.holds first third = true

/-- The test of values by something that is read of each. -/
def EqualityTest.byImage {α : Type} [BEq α] (image : Value → α) : EqualityTest :=
  fun first second => .ok (image first == image second)

/-- Values pass exactly when the same is read of them. -/
theorem EqualityTest.holds_byImage_iff {α : Type} [BEq α] [LawfulBEq α] (image : Value → α)
    (first second : Value) :
    (byImage image).holds first second = true ↔ image first = image second :=
  beq_iff_eq

/-- A test by something that is read of values is symmetric and transitive. -/
theorem EqualityTest.partialEquivalence_byImage {α : Type} [BEq α] [LawfulBEq α]
    (image : Value → α) : (byImage image).PartialEquivalence where
  total first second := ⟨_, rfl⟩
  symm same := by
    rw [holds_byImage_iff] at same ⊢
    exact same.symm
  trans first second := by
    rw [holds_byImage_iff] at first second ⊢
    exact first.trans second

/-- Values are consistent if those given to one variable are equal two by two. -/
def Consistent (equal : EqualityTest) (occurrences : Entries Value) : Prop :=
  occurrences.Pairwise fun earlier later =>
    earlier.1 = later.1 → equal.holds earlier.2 later.2 = true

instance (equal : EqualityTest) (occurrences : Entries Value) :
    Decidable (Consistent equal occurrences) :=
  inferInstanceAs (Decidable (List.Pairwise _ _))

namespace Binding

/-- The binding of every variable to the first value that it is given. -/
def ofOccurrences (occurrences : Entries Value) : Binding :=
  mergeAll (occurrences.map fun (name, value) => single name value)

/-- One occurrence gives the binding of one variable. -/
@[simp] theorem ofOccurrences_singleton (name : String) (value : Value) :
    ofOccurrences [(name, value)] = single name value := merged_empty _

/-- The first values among all occurrences come from the front or else from the back. -/
theorem ofOccurrences_append (front back : Entries Value) :
    ofOccurrences (front ++ back) = (ofOccurrences front).merged (ofOccurrences back) := by
  unfold ofOccurrences
  rw [List.map_append, mergeAll_append]

/-- A variable has the first value that it is given. -/
theorem get?_ofOccurrences (occurrences : Entries Value) (name : String) :
    (ofOccurrences occurrences).get? name = occurrences.get? name := by
  induction occurrences with
  | nil => rfl
  | cons occurrence rest ih =>
    obtain ⟨other, value⟩ := occurrence
    have split := ofOccurrences_append [(other, value)] rest
    rw [List.singleton_append, ofOccurrences_singleton] at split
    rw [split, get?_merged, ih, get?_single, Entries.get?_cons]
    by_cases same : other = name
    · rw [if_pos same, if_pos same, Option.some_or]
    · rw [if_neg same, if_neg same, Option.none_or]

/-- The variables stand in the order of their first occurrences. -/
theorem keys_ofOccurrences (occurrences : Entries Value) :
    (ofOccurrences occurrences).keys = (Entries.keys occurrences).eraseDups := by
  rw [ofOccurrences, keys_mergeAll, Entries.keys, List.flatMap_map]
  congr 1
  induction occurrences with
  | nil => rfl
  | cons occurrence rest ih => rw [List.flatMap_cons, ih]; rfl

end Binding

section Consistency

variable {equal : EqualityTest}

/-- What is read of consistent occurrences is an occurrence to which all others of the variable
are equal. -/
theorem Consistent.eq_or_holds {occurrences : Entries Value}
    (consistent : Consistent equal occurrences) {name : String} {first value : Value}
    (read : occurrences.get? name = some first) (member : (name, value) ∈ occurrences) :
    first = value ∨ equal.holds first value = true := by
  induction occurrences with
  | nil => cases member
  | cons occurrence rest ih =>
    obtain ⟨other, given⟩ := occurrence
    obtain ⟨head, tail⟩ := List.pairwise_cons.1 consistent
    rw [Entries.get?_cons] at read
    by_cases same : other = name
    · rw [if_pos same, Option.some.injEq] at read
      subst read
      rcases List.mem_cons.1 member with here | later
      · exact .inl (congrArg Prod.snd here).symm
      · exact .inr (head (name, value) later same)
    · rw [if_neg same] at read
      rcases List.mem_cons.1 member with here | later
      · exact absurd (congrArg Prod.fst here).symm same
      · exact ih tail read later

/-- Occurrences in front and behind are consistent exactly when both are and their bindings
agree: all other comparisons follow by symmetry and transitivity. -/
theorem consistent_append_iff (equivalence : equal.PartialEquivalence)
    (front back : Entries Value) :
    Consistent equal (front ++ back) ↔
      Consistent equal front ∧ Consistent equal back ∧
        (Binding.ofOccurrences front).agrees equal (Binding.ofOccurrences back) = true := by
  rw [Consistent, List.pairwise_append, ← Consistent, ← Consistent]
  refine and_congr_right fun consistent => and_congr_right fun later => ?_
  rw [Binding.agrees_iff]
  simp only [Binding.get?_ofOccurrences]
  constructor
  · intro across name second first given bound
    have inFront := Entries.mem_of_get?_eq_some bound
    have inBack := Entries.mem_of_get?_eq_some given
    exact equivalence.symm (across (name, first) inFront (name, second) inBack rfl)
  · rintro agreeing ⟨name, value⟩ inFront ⟨other, otherValue⟩ inBack same
    obtain rfl : name = other := same
    obtain ⟨first, bound⟩ : ∃ first, front.get? name = some first := by
      rw [← Option.isSome_iff_exists, ← Entries.has, Entries.has_iff_mem_keys]
      exact List.mem_map.2 ⟨(name, value), inFront, rfl⟩
    obtain ⟨second, given⟩ : ∃ second, back.get? name = some second := by
      rw [← Option.isSome_iff_exists, ← Entries.has, Entries.has_iff_mem_keys]
      exact List.mem_map.2 ⟨(name, otherValue), inBack, rfl⟩
    -- From the value to the first in front, to the first behind, to the other value.
    have middle : equal.holds first second = true :=
      equivalence.symm (agreeing name second first given bound)
    have left : equal.holds value second = true := by
      rcases consistent.eq_or_holds bound inFront with here | first
      · exact here ▸ middle
      · exact equivalence.trans (equivalence.symm first) middle
    rcases later.eq_or_holds given inBack with here | second
    · exact here ▸ left
    · exact equivalence.trans left second

/-- The bindings that the consistent ones of some choices stand for, in order. -/
def resolved (equal : EqualityTest) (choices : List (Entries Value)) : List Binding :=
  (choices.filter fun occurrences => Consistent equal occurrences).map Binding.ofOccurrences

/-- A consistent choice comes first. -/
theorem resolved_cons_of_consistent {choice : Entries Value} (consistent : Consistent equal choice)
    (rest : List (Entries Value)) :
    resolved equal (choice :: rest) = Binding.ofOccurrences choice :: resolved equal rest := by
  rw [resolved, List.filter_cons, if_pos (decide_eq_true consistent), List.map_cons, ← resolved]

/-- A choice that is not consistent is left out. -/
theorem resolved_cons_of_not_consistent {choice : Entries Value}
    (inconsistent : ¬ Consistent equal choice) (rest : List (Entries Value)) :
    resolved equal (choice :: rest) = resolved equal rest := by
  rw [resolved, List.filter_cons, if_neg (by simpa using inconsistent), ← resolved]

/-- Choices one behind the other. -/
theorem resolved_append (front back : List (Entries Value)) :
    resolved equal (front ++ back) = resolved equal front ++ resolved equal back := by
  rw [resolved, List.filter_append, List.map_append, ← resolved, ← resolved]

/-- Extending by consistent occurrences, binding by binding, is putting them behind every choice. -/
theorem resolved_extend (equivalence : equal.PartialEquivalence) (choices : List (Entries Value))
    {back : Entries Value} (consistent : Consistent equal back) :
    ((resolved equal choices).filter
        (Binding.agrees equal · (Binding.ofOccurrences back))).map
        (Binding.merged · (Binding.ofOccurrences back)) =
      resolved equal (choices.map (· ++ back)) := by
  induction choices with
  | nil => rfl
  | cons front rest ih =>
    have longer := consistent_append_iff equivalence front back
    rw [List.map_cons]
    by_cases first : Consistent equal front
    · rw [resolved_cons_of_consistent first, List.filter_cons]
      by_cases agreeing :
          (Binding.ofOccurrences front).agrees equal (Binding.ofOccurrences back) = true
      · rw [if_pos agreeing, List.map_cons, ih,
          resolved_cons_of_consistent (longer.2 ⟨first, consistent, agreeing⟩),
          Binding.ofOccurrences_append]
      · rw [if_neg agreeing, ih,
          resolved_cons_of_not_consistent fun both => agreeing (longer.1 both).2.2]
    · rw [resolved_cons_of_not_consistent first, ih,
        resolved_cons_of_not_consistent fun both => first (longer.1 both).1]

/-- Joining, binding by binding, is taking all combinations of choices, those behind being the
outer ones. -/
theorem resolved_join (equivalence : equal.PartialEquivalence)
    (lefts rights : List (Entries Value)) :
    ((resolved equal rights).flatMap fun extension =>
        ((resolved equal lefts).filter (Binding.agrees equal · extension)).map
          (Binding.merged · extension)) =
      resolved equal (rights.flatMap fun back => lefts.map (· ++ back)) := by
  induction rights with
  | nil => rfl
  | cons back rest ih =>
    rw [List.flatMap_cons, resolved_append, ← ih]
    by_cases consistent : Consistent equal back
    · rw [← resolved_extend equivalence lefts consistent, resolved_cons_of_consistent consistent,
        List.flatMap_cons]
    · have nothing : resolved equal (lefts.map (· ++ back)) = [] := by
        rw [resolved, List.map_eq_nil_iff, List.filter_eq_nil_iff]
        intro longer member accepted
        obtain ⟨front, _, rfl⟩ := List.mem_map.1 member
        rw [decide_eq_true_iff, consistent_append_iff equivalence] at accepted
        exact consistent accepted.2.1
      rw [nothing, List.nil_append, resolved_cons_of_not_consistent consistent]

end Consistency

namespace Source

variable {equal : EqualityTest} {α : Type}

/-- A source lists the bindings of the consistent choices, and nothing else. -/
def Resolves (equal : EqualityTest) (source : Source) (choices : List (Entries Value)) : Prop :=
  source.listing equal = (resolved equal choices).map .binding

/-- The neutral source for joins has one choice, which gives nothing. -/
theorem resolves_compatible : Resolves equal compatible [[]] := by
  have consistent : Consistent equal [] := List.Pairwise.nil
  rw [Resolves, resolved_cons_of_consistent consistent]
  rfl

/-- The neutral source for unions has no choice. -/
theorem resolves_incompatible : Resolves equal incompatible [] := rfl

/-- A binding of one variable is the choice of its value. -/
theorem resolves_single (name : String) (value : Value) :
    Resolves equal (single (Binding.single name value)) [[(name, value)]] := by
  have consistent : Consistent equal [(name, value)] := List.pairwise_singleton _ _
  rw [Resolves, resolved_cons_of_consistent consistent, Binding.ofOccurrences_singleton]
  rfl

/-- A union has the choices of its sources, one behind the other. -/
theorem resolves_union (list : List α) {build : α → Source}
    {choices : α → List (Entries Value)}
    (each : ∀ element ∈ list, Resolves equal (build element) (choices element)) :
    Resolves equal (union (list.map build)) (list.flatMap choices) := by
  rw [Resolves, listing_union]
  induction list with
  | nil => rfl
  | cons element rest ih =>
    rw [List.forall_mem_cons] at each
    rw [List.map_cons, List.flatMap_cons, List.flatMap_cons, resolved_append, List.map_append,
      ih each.2, ← each.1]

/-- Extending by one variable puts its value behind every choice. -/
theorem resolves_extend (equivalence : equal.PartialEquivalence) {source : Source}
    {choices : List (Entries Value)} (resolves : Resolves equal source choices) (name : String)
    (value : Value) :
    Resolves equal (extend source (Binding.single name value))
      (choices.map (· ++ [(name, value)])) := by
  have consistent : Consistent equal [(name, value)] := List.pairwise_singleton _ _
  rw [Resolves, ← resolved_extend equivalence choices consistent, Binding.ofOccurrences_singleton,
    listing, resolves, Event.flatMap_extensions_binding]

/-- A join of sources has all combinations of their choices, those of the last source being the
outermost. -/
theorem resolves_joinAll (equivalence : equal.PartialEquivalence) (list : List α)
    {build : α → Source} {choices : α → List (Entries Value)}
    (each : ∀ element ∈ list, Resolves equal (build element) (choices element)) :
    Resolves equal (joinAll (list.map build))
      ((list.map choices).sections.map List.flatten) := by
  induction list with
  | nil => exact resolves_compatible
  | cons element rest ih =>
    rw [List.forall_mem_cons] at each
    have others := ih each.2
    have combined : ((element :: rest).map choices).sections.map List.flatten =
        ((rest.map choices).sections.map List.flatten).flatMap fun back =>
          (choices element).map (· ++ back) := by
      rw [List.map_cons, List.sections, List.map_flatMap, List.flatMap_map]
      simp only [List.map_map, Function.comp_def, List.flatten_cons]
    rw [Resolves, combined, ← resolved_join equivalence]
    show Event.joined equal ((build element).listing equal)
      ((joinAll (rest.map build)).listing equal) = _
    rw [each.1, others, Event.joined_binding]

end Source

end GraphPattern
