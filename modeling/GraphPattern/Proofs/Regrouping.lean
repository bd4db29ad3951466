import GraphPattern.Proofs.Composition
import GraphPattern.Proofs.Finding
import GraphPattern.Proofs.Occurrence

/-!
# Joins in other groups

A join of many sources is folded from the right, so a join among the sources of
a join stands for a group of them. The single empty binding is neutral on either
side of a join, and a group at the end is not seen at all: whoever goes through
the join meets the same comparisons and the same events.

A group in front of other sources is a different matter. Its bindings are put
together before they meet what stands behind, so a value from behind is compared
with the first value in the group and not with the last, more comparisons are
made, and the faults of the group come as often as there are bindings behind.

Main statement: if the test of equality is symmetric and transitive, then the
bindings are the same all the same, in the same order and with the same values.
-/

namespace GraphPattern

namespace Binding

variable {equal : EqualityTest}

/-- A binding without variables agrees with every extension. -/
theorem agrees_empty_left (equal : EqualityTest) (extension : Binding) :
    empty.agrees equal extension = true := by
  rw [agrees_iff]
  intro name first second given bound
  cases bound

/-- Nothing is compared with an extension without variables. -/
theorem shared_empty (binding : Binding) : binding.shared empty = [] := rfl

/-- Nothing is compared in a binding without variables. -/
theorem empty_shared (extension : Binding) : empty.shared extension = [] := by
  rw [shared, List.filterMap_eq_nil_iff]
  exact fun _ _ => rfl

/-- Three bindings agree in either grouping. Two of them agree and their merge agrees with the
third, whichever two are taken first. A value that is compared in one grouping is compared in the
other, or it is equal to one that is. -/
theorem agrees_merged_iff (equivalence : equal.PartialEquivalence)
    (first second third : Binding) :
    first.agrees equal second = true ∧ (first.merged second).agrees equal third = true ↔
      second.agrees equal third = true ∧ first.agrees equal (second.merged third) = true := by
  simp only [agrees_iff, get?_merged]
  constructor
  · rintro ⟨front, back⟩
    refine ⟨fun name last middle given bound => ?_, fun name later earlier given bound => ?_⟩
    · cases held : first.get? name with
      | some value =>
        -- The first binding hides the middle value, which is equal to its own.
        have toMiddle : equal.holds middle value = true := front name middle value bound held
        have toLast : equal.holds last value = true :=
          back name last value given (by rw [held, Option.some_or])
        exact equivalence.trans toLast (equivalence.symm toMiddle)
      | none => exact back name last middle given (by rw [held, bound, Option.none_or])
    · cases held : second.get? name with
      | some value =>
        rw [held, Option.some_or, Option.some.injEq] at given
        exact given ▸ front name value earlier held bound
      | none =>
        rw [held, Option.none_or] at given
        exact back name later earlier given (by rw [bound, Option.some_or])
  · rintro ⟨back, front⟩
    refine ⟨fun name later earlier given bound => ?_, fun name last value given bound => ?_⟩
    · exact front name later earlier (by rw [given, Option.some_or]) bound
    · cases held : first.get? name with
      | some earlier =>
        rw [held, Option.some_or, Option.some.injEq] at bound
        subst bound
        cases middle : second.get? name with
        | some value =>
          have toMiddle : equal.holds value earlier = true :=
            front name value earlier (by rw [middle, Option.some_or]) held
          exact equivalence.trans (back name last value given middle) toMiddle
        | none => exact front name last earlier (by rw [middle, given, Option.none_or]) held
      | none =>
        rw [held, Option.none_or] at bound
        exact back name last value given bound

/-- Extending bindings twice is extending them once by the merge of both extensions, provided that
these agree, and otherwise leaves nothing. -/
theorem filter_map_extended (equivalence : equal.PartialEquivalence) (list : List Binding)
    (middle last : Binding) :
    ((((list.filter (agrees equal · middle)).map (merged · middle)).filter
        (agrees equal · last)).map (merged · last)) =
      if middle.agrees equal last = true then
        (list.filter (agrees equal · (middle.merged last))).map (merged · (middle.merged last))
      else [] := by
  have both : ∀ binding : Binding,
      ((binding.merged middle).agrees equal last && binding.agrees equal middle) =
        (middle.agrees equal last && binding.agrees equal (middle.merged last)) := by
    intro binding
    rw [Bool.eq_iff_iff, Bool.and_comm, Bool.and_eq_true, Bool.and_eq_true]
    exact agrees_merged_iff equivalence binding middle last
  rw [List.filter_map, List.map_map, List.filter_filter]
  simp only [Function.comp_def, merged_assoc, both]
  by_cases agreeing : middle.agrees equal last = true
  · rw [if_pos agreeing]
    simp only [agreeing, Bool.true_and]
  · rw [if_neg agreeing]
    simp only [agreeing, Bool.false_and, List.filter_false, List.map_nil]

end Binding

namespace Source

variable {equal : EqualityTest}

/-- A join of sources in front of others is folded onto the join of these. -/
theorem joinAll_append (front back : List Source) :
    joinAll (front ++ back) = front.foldr join (joinAll back) := List.foldr_append

/-- What relates two sources, and their joins with any one source on the left, relates the joins of
some sources in front of either. -/
theorem related_foldr_join (related : Source → Source → Prop)
    (kept : ∀ left {right other}, related right other → related (join left right) (join left other))
    {right other : Source} (same : related right other) (front : List Source) :
    related (front.foldr join right) (front.foldr join other) := by
  induction front with
  | nil => exact same
  | cons source rest ih => exact kept source ih

/-- The single empty binding is neutral on the right of a join. -/
theorem walk_join_empty (equal : EqualityTest) (source : Source) :
    (join source (single .empty)).walk equal = source.walk equal := by
  have alone : Event.extended equal .empty = Walk.one := by
    funext event
    cases event with
    | binding bound => rw [Event.extended, Binding.merged_empty, Binding.shared_empty]; rfl
    | fault error => rfl
  rw [walk, walk, Walk.one_bind]
  show (source.walk equal).bind (Event.extended equal .empty) = _
  rw [alone, Walk.bind_one]

/-- The single empty binding is neutral on the left of a join. -/
theorem walk_empty_join (equal : EqualityTest) (source : Source) :
    (join (single .empty) source).walk equal = source.walk equal := by
  have alone : ∀ extension : Binding,
      (Walk.one (.binding .empty)).bind (Event.extended equal extension) =
        Walk.one (.binding extension) := by
    intro extension
    rw [Walk.one_bind, Event.extended, Binding.empty_merged, Binding.empty_shared]
    rfl
  have unchanged :
      (join (single .empty) source).walk equal = (source.walk equal).bind Walk.one := by
    rw [walk]
    refine Walk.bind_congr_of_elements fun event _ => ?_
    cases event with
    | binding extension => exact alone extension
    | fault error => rfl
  rw [unchanged, Walk.bind_one]

/-- Joins of one source with others are walked through alike if the others are. -/
theorem walk_join_congr (left : Source) {right other : Source}
    (same : right.walk equal = other.walk equal) :
    (join left right).walk equal = (join left other).walk equal := by
  rw [walk, walk, same]

/-- A group at the end of a join is walked through like its sources. -/
theorem walk_joinAll_group (equal : EqualityTest) (front group : List Source) :
    (joinAll (front ++ [joinAll group])).walk equal = (joinAll (front ++ group)).walk equal := by
  rw [joinAll_append, joinAll_append]
  exact related_foldr_join (fun source other => source.walk equal = other.walk equal)
    walk_join_congr (walk_join_empty equal (joinAll group)) front

/-- An extension is walked through like the join with its single binding. -/
theorem walk_extend_eq_join (equal : EqualityTest) (source : Source) (extension : Binding) :
    (extend source extension).walk equal = (joinAll [source, single extension]).walk equal := by
  have behind : (joinAll [single extension]).walk equal = Walk.one (.binding extension) :=
    walk_join_empty equal (single extension)
  show _ = (join source (joinAll [single extension])).walk equal
  rw [walk, walk, behind, Walk.one_bind]

/-- Joins of one source with others find the same if the others do. -/
theorem found_join_congr (left : Source) {right other : Source}
    (same : right.found equal = other.found equal) :
    (join left right).found equal = (join left other).found equal := by
  rw [found_join, found_join, same]

/-- The single empty binding on the left of a join leaves what is found as it is. -/
theorem found_empty_join (equal : EqualityTest) (source : Source) :
    (join (single .empty) source).found equal = source.found equal := by
  have alone : ∀ extension : Binding,
      ((found equal (single .empty)).filter (Binding.agrees equal · extension)).map
        (Binding.merged · extension) = [extension] := by
    intro extension
    have kept : [Binding.empty].filter (Binding.agrees equal · extension) = [.empty] :=
      List.filter_eq_self.2 fun binding member => by
        rw [List.mem_singleton.1 member]
        exact Binding.agrees_empty_left equal extension
    show ([Binding.empty].filter _).map _ = _
    rw [kept, List.map_singleton, Binding.empty_merged]
  rw [found_join]
  simp only [alone, List.flatMap_singleton']

/-- Joins of three sources find the same in either grouping, in the same order. -/
theorem found_join_join (equivalence : equal.PartialEquivalence) (left middle right : Source) :
    (join (join left middle) right).found equal = (join left (join middle right)).found equal := by
  simp only [found_join, List.flatMap_assoc, List.filter_flatMap, List.map_flatMap]
  refine List.flatMap_congr fun last _ => ?_
  rw [List.flatMap_map]
  induction middle.found equal with
  | nil => rfl
  | cons binding rest ih =>
    rw [List.flatMap_cons, Binding.filter_map_extended equivalence, ih, List.filter_cons]
    by_cases agreeing : binding.agrees equal last = true
    · rw [if_pos agreeing, if_pos agreeing, List.flatMap_cons]
    · rw [if_neg agreeing, if_neg agreeing, List.nil_append]

/-- The join of a group with a source behind it finds what the sources of the group do when they are
joined with it one by one. -/
theorem found_join_joinAll (equivalence : equal.PartialEquivalence) (group : List Source)
    (right : Source) :
    (join (joinAll group) right).found equal = (group.foldr join right).found equal := by
  induction group with
  | nil => exact found_empty_join equal right
  | cons source rest ih =>
    have regrouped := found_join_join equivalence source (joinAll rest) right
    exact regrouped.trans (found_join_congr source ih)

/-- A group anywhere in a join leaves what is found as it is. -/
theorem found_joinAll_group (equivalence : equal.PartialEquivalence)
    (front group back : List Source) :
    (joinAll (front ++ joinAll group :: back)).found equal =
      (joinAll (front ++ group ++ back)).found equal := by
  rw [List.append_assoc, joinAll_append, joinAll_append, joinAll_append]
  exact related_foldr_join (fun source other => source.found equal = other.found equal)
    found_join_congr (found_join_joinAll equivalence group (joinAll back)) front

/-- Joins can be regrouped. Under every test of equality, a group at the end of a join is walked
through like its sources, and an extension like the join with a single binding: the same values are
compared, and the same bindings and faults are shown, up to the same error.

Under a test that is symmetric and transitive, a group anywhere in a join leaves the bindings as
they are, with their order, their variables and their values. If no source of the join ends in an
error, then neither join does. Where they do end in errors, what one of them shows is a front part
of what the other shows. -/
theorem bindings_joinAll_regrouped (equal : EqualityTest) (front group : List Source) :
    (joinAll (front ++ [joinAll group])).walk equal = (joinAll (front ++ group)).walk equal ∧
    (∀ source extension,
      (extend source extension).walk equal = (joinAll [source, single extension]).walk equal) ∧
    (equal.PartialEquivalence → ∀ back : List Source,
      let grouped := joinAll (front ++ joinAll group :: back)
      let flat := joinAll (front ++ group ++ back)
      ((∀ source ∈ front ++ group ++ back, (source.walk equal).Finishes) →
        (grouped.walk equal).Finishes ∧ (flat.walk equal).Finishes) ∧
      ((grouped.walk equal).Finishes → (flat.walk equal).Finishes →
        grouped.bindings equal = flat.bindings equal) ∧
      (grouped.bindings equal <+: flat.bindings equal ∨
        flat.bindings equal <+: grouped.bindings equal)) := by
  refine ⟨walk_joinAll_group equal front group, walk_extend_eq_join equal,
    fun equivalence back => ?_⟩
  intro grouped flat
  have same : grouped.found equal = flat.found equal :=
    found_joinAll_group equivalence front group back
  refine ⟨fun finish => ?_, fun ends endsFlat => ?_, ?_⟩
  · have flatFinishes := finishes_joinAll equivalence.total _ finish
    rw [List.append_assoc, List.forall_mem_append, List.forall_mem_append] at finish
    obtain ⟨inFront, inGroup, inBack⟩ := finish
    have groupFinishes := finishes_joinAll equivalence.total group inGroup
    refine ⟨finishes_joinAll equivalence.total _ ?_, flatFinishes⟩
    exact List.forall_mem_append.2 ⟨inFront, List.forall_mem_cons.2 ⟨groupFinishes, inBack⟩⟩
  · rw [bindings_eq_found ends, bindings_eq_found endsFlat, same]
  · have shown : grouped.bindings equal <+: flat.found equal :=
      same ▸ bindings_isPrefix_found grouped
    exact List.prefix_or_prefix_of_prefix shown (bindings_isPrefix_found flat)

/-- Whole numbers count as equal if their last digits are. The first source of the group has a
fault, and its second one agrees with the first binding behind the group only. Both joins have one
binding, but in the group the fault shows for each binding behind, and without groups only where the
second source agrees. -/
theorem bindings_joinAll_regrouped_digits :
    let equal : EqualityTest := .byImage fun value => value.integer?.map (· % 10)
    let front : List Source := [table [.single "y" (.int 12), .single "y" (.int 13)]]
    let group : List Source :=
      [union [failure .beyondEnd, table [.single "x" (.int 1), .single "x" (.int 2)]],
        single (.single "x" (.int 11))]
    let back : List Source :=
      [table [.ofPairs [("y", .int 2), ("x", .int 21)], .single "x" (.int 22)]]
    let grouped := joinAll (front ++ joinAll group :: back)
    let flat := joinAll (front ++ group ++ back)
    let shown (source : Source) := (source.walk equal).elements.map fun event =>
      event.binding?.map fun binding => (binding.keys, (binding.get? "x").bind Value.integer?)
    grouped.bindings equal = flat.bindings equal ∧
      shown grouped = [none, some (["y", "x"], some 1), none] ∧
      shown flat = [none, some (["y", "x"], some 1)] := by
  intro equal front group back grouped flat shown
  have equivalence : equal.PartialEquivalence := EqualityTest.partialEquivalence_byImage _
  have known : ∀ source ∈ front ++ group ++ back, source.Known := by
    simp [front, group, back, Known, KnownAll]
  obtain ⟨_, _, regrouped⟩ := bindings_joinAll_regrouped equal front group
  obtain ⟨finish, same, _⟩ := regrouped equivalence back
  have finishes := finish fun source member =>
    finishes_walk equivalence.total source (known source member)
  refine ⟨same finishes.1 finishes.2, ?_, ?_⟩
  · clear * -
    subst shown grouped back group front equal
    decide +kernel
  · clear * -
    subst shown flat back group front equal
    decide +kernel

end Source

end GraphPattern
