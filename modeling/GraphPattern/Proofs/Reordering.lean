import GraphPattern.Proofs.Join
import GraphPattern.Proofs.Occurrence
import Mathlib.Data.Multiset.Sections

/-!
# Joins in another order

The order in which sources are joined decides which values are compared, which
value of a shared variable is kept and in which order the results come. None of
this matters up to equal values, provided that the test of equality is symmetric
and transitive: a tuple of bindings is then accepted exactly if any two of its
bindings agree, and this does not depend on their order.

Main statement: if the sources of a join are permuted, then the bindings of both
joins can be paired off, so that paired bindings bind the same variables to
values that are identical or equal.

Being in one-to-one correspondence is `Multiset.Rel`: it relates two collections
if the elements of one can be paired off with those of the other so that every
pair is related.
-/

namespace GraphPattern

section Pairing

variable {α β γ : Type} {related : α → β → Prop}

/-- Elements that are paired off can be filtered, if a test does not tell paired ones apart. -/
theorem rel_filter {items : Multiset α} {others : Multiset β} {keep : α → Prop}
    {keepOther : β → Prop} [DecidablePred keep] [DecidablePred keepOther]
    (paired : Multiset.Rel related items others)
    (same : ∀ item other, related item other → (keep item ↔ keepOther other)) :
    Multiset.Rel related (items.filter keep) (others.filter keepOther) := by
  induction paired with
  | zero => exact Multiset.Rel.zero
  | @cons item other items others pair paired ih =>
    have equivalent := same item other pair
    by_cases kept : keep item
    · rw [Multiset.filter_cons_of_pos _ kept, Multiset.filter_cons_of_pos _ (equivalent.1 kept)]
      exact Multiset.Rel.cons pair ih
    · have dropped : ¬ keepOther other := fun keptOther => kept (equivalent.2 keptOther)
      rw [Multiset.filter_cons_of_neg _ kept, Multiset.filter_cons_of_neg _ dropped]
      exact ih

/-- Lists, where neither their order nor the order in each of them counts. -/
def unordered (lists : List (List α)) : Multiset (Multiset α) :=
  (lists.map Multiset.ofList : List (Multiset α))

/-- The order of lists does not count. -/
theorem unordered_eq_of_perm {lists others : List (List α)} (reordered : lists.Perm others) :
    unordered lists = unordered others := Multiset.coe_eq_coe.2 (reordered.map _)

/-- Lists that are the same but for the order are paired off with their permutations. -/
theorem rel_perm_of_unordered_eq {lists others : List (List α)}
    (same : unordered lists = unordered others) :
    Multiset.Rel List.Perm (lists : Multiset (List α)) others := by
  have mapped : (lists : Multiset (List α)).map Multiset.ofList =
      (others : Multiset (List α)).map Multiset.ofList := same
  rw [← Multiset.rel_eq, Multiset.rel_map] at mapped
  exact mapped.mono fun _ _ _ _ permuted => Multiset.coe_eq_coe.1 permuted

/-- Choices of one element from each list are the same, but for the order, from permuted lists. -/
theorem unordered_sections_of_perm {lists others : List (List α)}
    (reordered : lists.Perm others) : unordered lists.sections = unordered others.sections := by
  have choices : ∀ lists : List (List α),
      Multiset.Sections (unordered lists) = unordered lists.sections := Multiset.coe_sections
  rw [← choices, ← choices, unordered_eq_of_perm reordered]

end Pairing

namespace Binding

/-- Two bindings bind the same variables, and the two values of each variable are identical or
equal. -/
structure Alike (equal : EqualityTest) (binding other : Binding) : Prop where
  /-- The variables are the same. -/
  keys : ∀ name, name ∈ binding.keys ↔ name ∈ other.keys
  /-- The values of each variable are identical or equal. -/
  values : ∀ name first second, binding.get? name = some first → other.get? name = some second →
    first = second ∨ equal.holds first second = true

section Alike

variable {equal : EqualityTest}

/-- Bindings that are alike are alike in what they give to some of the variables. -/
theorem Alike.restricted {binding other : Binding} (alike : Alike equal binding other)
    (kept : List String) : Alike equal (binding.restricted kept) (other.restricted kept) where
  keys name := by
    rw [keys_restricted, keys_restricted, List.mem_filter, List.mem_filter, alike.keys name]
  values name first second bound given := by
    rw [get?_restricted] at bound given
    by_cases isKept : kept.contains name = true
    · rw [if_pos isKept] at bound given
      exact alike.values name first second bound given
    · rw [if_neg isKept] at bound
      cases bound

/-- Bindings that agree do so in either order. -/
theorem agrees_symm (equivalence : equal.PartialEquivalence) {binding other : Binding}
    (agreeing : binding.agrees equal other = true) : other.agrees equal binding = true := by
  rw [agrees_iff] at agreeing ⊢
  intro name first second given bound
  exact equivalence.symm (agreeing name second first bound given)

/-- What a merge gives to a variable is given by one of the merged bindings. -/
theorem exists_of_get?_mergeAll {tuple : List Binding} {name : String} {value : Value}
    (merged : (mergeAll tuple).get? name = some value) :
    ∃ binding ∈ tuple, binding.get? name = some value := by
  rw [get?_mergeAll] at merged
  exact List.exists_of_findSome?_eq_some merged

/-- If any two of some bindings agree, then what their merge gives to a variable is identical or
equal to what each of them gives to it. -/
theorem eq_or_holds_of_pairwise (equivalence : equal.PartialEquivalence) {tuple : List Binding}
    (pairwise : tuple.Pairwise fun earlier later => earlier.agrees equal later = true)
    {name : String} {first value : Value} (merged : (mergeAll tuple).get? name = some first)
    {binding : Binding} (member : binding ∈ tuple) (bound : binding.get? name = some value) :
    first = value ∨ equal.holds first value = true := by
  induction tuple with
  | nil => cases member
  | cons head rest ih =>
    obtain ⟨agreeing, pairwiseRest⟩ := List.pairwise_cons.1 pairwise
    rw [mergeAll_cons, get?_merged] at merged
    cases given : head.get? name with
    | some headValue =>
      rw [given, Option.some_or, Option.some.injEq] at merged
      subst merged
      rcases List.mem_cons.1 member with rfl | later
      · rw [given, Option.some.injEq] at bound
        exact .inl bound
      · have compared := (agrees_iff equal head binding).1 (agreeing binding later)
        have holds : equal.holds value headValue = true :=
          compared name value headValue bound given
        exact .inr (equivalence.symm holds)
    | none =>
      rw [given, Option.none_or] at merged
      rcases List.mem_cons.1 member with rfl | later
      · rw [given] at bound
        cases bound
      · exact ih pairwiseRest merged later

/-- A binding agrees with the merge of bindings any two of which agree exactly if it agrees with
each of them. -/
theorem agrees_mergeAll_iff (equivalence : equal.PartialEquivalence) {rest : List Binding}
    (pairwise : rest.Pairwise fun earlier later => earlier.agrees equal later = true)
    (binding : Binding) :
    binding.agrees equal (mergeAll rest) = true ↔
      ∀ later ∈ rest, binding.agrees equal later = true := by
  constructor
  · intro agreeing later member
    rw [agrees_iff] at agreeing ⊢
    intro name value held given bound
    have isKey : name ∈ (mergeAll rest).keys := by
      have isBound : later.has name = true := by rw [has_eq_isSome, given, Option.isSome_some]
      exact (mem_keys_mergeAll_iff rest name).2
        ⟨later, member, (has_iff_mem_keys later name).1 isBound⟩
    rw [← has_iff_mem_keys, has_eq_isSome] at isKey
    obtain ⟨first, merged⟩ := Option.isSome_iff_exists.1 isKey
    have compared : equal.holds first held = true := agreeing name first held merged bound
    -- The merged value is compared; the value of the later binding is equal to it.
    rcases eq_or_holds_of_pairwise equivalence pairwise merged member given with same | equals
    · exact same ▸ compared
    · exact equivalence.trans (equivalence.symm equals) compared
  · intro each
    rw [agrees_iff]
    intro name first held merged bound
    obtain ⟨later, member, given⟩ := exists_of_get?_mergeAll merged
    exact (agrees_iff equal binding later).1 (each later member) name first held given bound

/-- Under a symmetric and transitive test a tuple is accepted exactly if any two of its bindings
agree. -/
theorem accepted_iff_pairwise (equivalence : equal.PartialEquivalence) (tuple : List Binding) :
    Accepted equal tuple ↔
      tuple.Pairwise fun earlier later => earlier.agrees equal later = true := by
  induction tuple with
  | nil => exact ⟨fun _ => List.Pairwise.nil, fun _ => (accepts_iff equal []).1 rfl⟩
  | cons binding rest ih =>
    rw [accepted_cons_iff, List.pairwise_cons, ih, and_comm]
    refine and_congr_left fun pairwise => ?_
    exact agrees_mergeAll_iff equivalence pairwise binding

/-- Whether a tuple is accepted does not depend on its order. -/
theorem accepted_iff_of_perm (equivalence : equal.PartialEquivalence) {tuple other : List Binding}
    (reordered : tuple.Perm other) : Accepted equal tuple ↔ Accepted equal other := by
  rw [accepted_iff_pairwise equivalence, accepted_iff_pairwise equivalence]
  exact reordered.pairwise_iff fun agreeing => agrees_symm equivalence agreeing

/-- The merge of an accepted tuple depends on its order only up to equal values. -/
theorem alike_mergeAll_of_perm (equivalence : equal.PartialEquivalence)
    {tuple other : List Binding} (accepted : Accepted equal tuple) (reordered : tuple.Perm other) :
    Alike equal (mergeAll tuple) (mergeAll other) where
  keys name := by
    rw [mem_keys_mergeAll_iff, mem_keys_mergeAll_iff]
    simp only [reordered.mem_iff]
  values name first second merged mergedOther := by
    have pairwise := (accepted_iff_pairwise equivalence tuple).1 accepted
    obtain ⟨binding, member, bound⟩ := exists_of_get?_mergeAll mergedOther
    exact eq_or_holds_of_pairwise equivalence pairwise merged (reordered.mem_iff.2 member) bound

/-- The merges of the accepted tuples from some lists are paired off with those from the lists in
another order, so that paired merges are alike. -/
theorem rel_acceptedMerges_of_perm (equivalence : equal.PartialEquivalence)
    {lists others : List (List Binding)} (reordered : lists.Perm others) :
    Multiset.Rel (Alike equal) (acceptedMerges equal lists : Multiset Binding)
      (acceptedMerges equal others) := by
  have accepted : Multiset.Rel List.Perm
      ((lists.sections : Multiset (List Binding)).filter (Accepted equal))
      ((others.sections : Multiset (List Binding)).filter (Accepted equal)) :=
    rel_filter (rel_perm_of_unordered_eq (unordered_sections_of_perm reordered))
      fun tuple other permuted => accepted_iff_of_perm equivalence permuted
  show Multiset.Rel (Alike equal)
    (((lists.sections : Multiset (List Binding)).filter (Accepted equal)).map mergeAll)
    (((others.sections : Multiset (List Binding)).filter (Accepted equal)).map mergeAll)
  rw [Multiset.rel_map]
  refine accepted.mono fun tuple member other _ permuted => ?_
  exact alike_mergeAll_of_perm equivalence (Multiset.mem_filter.1 member).2 permuted

end Alike

end Binding

namespace Source

/-- Joins do not depend on the order of their sources, up to equal values. Let the test of
equality be symmetric and transitive, and let the sources of a join be permuted. If going through
both joins ends without an error, as it does whenever it does for every source, then the bindings
of the one join are paired off with those of the other: paired bindings bind the same variables,
and the two values of each variable are identical or equal. So both joins have as many bindings. -/
theorem rel_bindings_joinAll_of_perm {equal : EqualityTest}
    (equivalence : equal.PartialEquivalence) {sources others : List Source}
    (reordered : sources.Perm others) :
    ((∀ source ∈ sources, (source.walk equal).Finishes) →
      ((joinAll sources).walk equal).Finishes ∧ ((joinAll others).walk equal).Finishes) ∧
    (((joinAll sources).walk equal).Finishes → ((joinAll others).walk equal).Finishes →
      Multiset.Rel (Binding.Alike equal) (bindings equal (joinAll sources) : Multiset Binding)
          (bindings equal (joinAll others)) ∧
        (bindings equal (joinAll sources)).length = (bindings equal (joinAll others)).length) := by
  constructor
  · intro finish
    have finishOthers : ∀ source ∈ others, (source.walk equal).Finishes :=
      fun source member => finish source (reordered.mem_iff.2 member)
    exact ⟨finishes_joinAll equivalence.total sources finish,
      finishes_joinAll equivalence.total others finishOthers⟩
  · intro finishes finishesOther
    have paired : Multiset.Rel (Binding.Alike equal)
        (bindings equal (joinAll sources) : Multiset Binding)
        (bindings equal (joinAll others)) := by
      rw [bindings_joinAll_of_finishes finishes, bindings_joinAll_of_finishes finishesOther]
      exact Binding.rel_acceptedMerges_of_perm equivalence (reordered.map _)
    exact ⟨paired, Multiset.card_eq_card_of_rel paired⟩

/-- Numbers with the same last digit are joined in both orders: the variables change places, and
each order keeps the value of the source that comes first. -/
theorem rel_bindings_joinAll_of_perm_digits :
    let equal : EqualityTest := .byImage fun value => value.integer?.map (· % 10)
    let first : Source := table [.single "x" (.int 1), .single "x" (.int 5)]
    let second : Source := single (.ofPairs [("y", .int 7), ("x", .int 11)])
    let shown (source : Source) := (bindings equal source).map fun binding =>
      (binding.keys, (binding.get? "x").bind Value.integer?)
    Multiset.Rel (Binding.Alike equal) (bindings equal (joinAll [first, second]) : Multiset Binding)
        (bindings equal (joinAll [second, first])) ∧
      shown (joinAll [first, second]) = [(["x", "y"], some 1)] ∧
      shown (joinAll [second, first]) = [(["y", "x"], some 11)] := by
  intro equal first second shown
  have equivalence : equal.PartialEquivalence := EqualityTest.partialEquivalence_byImage _
  obtain ⟨finish, paired⟩ :=
    rel_bindings_joinAll_of_perm equivalence (List.Perm.swap second first [])
  have finishes := finish (by simp [first, second, Walk.Finishes, walk, Walk.ofList, Walk.map,
    Walk.one, Walk.observe])
  refine ⟨(paired finishes.1 finishes.2).1, ?_, ?_⟩
  · clear * -
    subst shown second first equal
    decide +kernel
  · clear * -
    subst shown second first equal
    decide +kernel

end Source

end GraphPattern
