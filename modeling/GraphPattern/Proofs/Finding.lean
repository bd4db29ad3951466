import GraphPattern.Proofs.Join
import Mathlib.Data.Multiset.Bind

/-!
# What a source finds

A source finds the bindings among its events. What an operator finds is put
together from what its operands find, whatever faults and errors there are, and
a walk that reaches its end shows all that its source finds. Two sources are
alike if they find the same but for the order, and if one can be walked through
to the end exactly if the other can; every operator keeps sources alike.
-/

namespace GraphPattern

namespace Source

/-- The bindings among the events of a source. -/
def found (equal : EqualityTest) (source : Source) : List Binding :=
  Event.bindings (source.listing equal)

variable {equal : EqualityTest}

/-- A union finds what its sources find, one behind the other. -/
theorem found_union (sources : List Source) :
    (union sources).found equal = sources.flatMap (found equal) := by
  rw [found, listing_union, Event.bindings_flatMap]
  rfl

/-- A join finds, for every binding on the right, the merges with those on the left that agree with
it. -/
theorem found_join (left right : Source) :
    (join left right).found equal =
      (right.found equal).flatMap fun extension =>
        ((left.found equal).filter (Binding.agrees equal · extension)).map
          (Binding.merged · extension) := by
  rw [found, listing, Event.bindings_joined]
  rfl

/-- A number of enumerations of a source finds as many times what the source does. -/
theorem found_multiply (source : Source) (times : Nat) :
    (multiply source times).found equal = (List.replicate times (source.found equal)).flatten := by
  rw [found, listing, Event.bindings_copies]
  rfl

section Membership

variable {binding : Binding}

/-- A union finds what one of its sources does. -/
theorem mem_found_union_iff {α : Type} {list : List α} {build : α → Source} :
    binding ∈ (union (list.map build)).found equal ↔
      ∃ element ∈ list, binding ∈ (build element).found equal := by
  rw [found_union, List.flatMap_map, List.mem_flatMap]

/-- A join finds merges of bindings that agree, one from either side. -/
theorem mem_found_join_iff {left right : Source} :
    binding ∈ (join left right).found equal ↔
      ∃ first ∈ left.found equal, ∃ second ∈ right.found equal,
        first.agrees equal second = true ∧ first.merged second = binding := by
  rw [found_join]
  simp only [List.mem_flatMap, List.mem_map, List.mem_filter]
  constructor
  · rintro ⟨second, inRight, first, ⟨inLeft, agreeing⟩, merged⟩
    exact ⟨first, inLeft, second, inRight, agreeing, merged⟩
  · rintro ⟨first, inLeft, second, inRight, agreeing, merged⟩
    exact ⟨second, inRight, first, ⟨inLeft, agreeing⟩, merged⟩

/-- An extension finds merges with bindings that agree. -/
theorem mem_found_extend_iff {source : Source} {extension : Binding} :
    binding ∈ (extend source extension).found equal ↔
      ∃ first ∈ source.found equal,
        first.agrees equal extension = true ∧ first.merged extension = binding := by
  rw [found, listing, Event.bindings_extensions]
  simp only [List.mem_map, List.mem_filter]
  constructor
  · rintro ⟨first, ⟨inSource, agreeing⟩, merged⟩
    exact ⟨first, inSource, agreeing, merged⟩
  · rintro ⟨first, inSource, agreeing, merged⟩
    exact ⟨first, ⟨inSource, agreeing⟩, merged⟩

/-- A projection finds restricted bindings. -/
theorem mem_found_project_iff {source : Source} {kept : List String} :
    binding ∈ (project source kept).found equal ↔
      ∃ first ∈ source.found equal, first.restricted kept = binding := by
  rw [found, listing, Event.bindings_map_restricted]
  exact List.mem_map

/-- A single binding is found alone. -/
theorem mem_found_single_iff {single : Binding} :
    binding ∈ (Source.single single).found equal ↔ binding = single := List.mem_singleton

end Membership

/-- A walk that reaches its end shows all that its source finds. -/
theorem bindings_eq_found {source : Source} (finishes : (source.walk equal).Finishes) :
    source.bindings equal = source.found equal := by
  rw [bindings, found, (follows_listing equal source).2 finishes]

/-- Whatever ends a walk, it shows a front part of what its source finds. -/
theorem bindings_isPrefix_found (source : Source) :
    source.bindings equal <+: source.found equal :=
  (follows_listing equal source).1.filterMap _

/-- What stands in the place of the events of a source can be walked through if what stands in the
place of those of another source can, provided that this one finds all bindings of the first. -/
theorem finishes_bind_of_subset {source other : Source}
    (subset : source.found equal ⊆ other.found equal)
    (ends : (other.walk equal).Finishes → (source.walk equal).Finishes)
    {next nextOther : Event → Walk Event} (passing : ∀ error, (next (.fault error)).Finishes)
    (each : ∀ binding, (nextOther (.binding binding)).Finishes → (next (.binding binding)).Finishes)
    (finishes : ((other.walk equal).bind nextOther).Finishes) :
    ((source.walk equal).bind next).Finishes := by
  obtain ⟨otherEnds, inner⟩ := (Walk.finishes_bind_iff _ _).1 finishes
  refine (Walk.finishes_bind_iff _ _).2 ⟨ends otherEnds, fun event shown => ?_⟩
  cases event with
  | fault error => exact passing error
  | binding bound =>
    have listed : Event.binding bound ∈ source.listing equal :=
      (follows_listing equal source).1.subset shown
    have foundByOther := subset (Event.mem_bindings_iff.2 listed)
    have shownByOther : Event.binding bound ∈ (other.walk equal).elements := by
      rw [(follows_listing equal other).2 otherEnds]
      exact Event.mem_bindings_iff.1 foundByOther
    exact each bound (inner _ shownByOther)

/-- A join can be walked through to the end if its right source can, and its left source extended
with every binding there. -/
theorem finishes_join_iff {left right : Source} :
    ((join left right).walk equal).Finishes ↔
      (right.walk equal).Finishes ∧
        ∀ extension ∈ right.bindings equal, ((extend left extension).walk equal).Finishes := by
  rw [walk, Walk.finishes_bind_iff]
  refine and_congr_right fun _ => ⟨fun each extension shown => ?_, fun each event shown => ?_⟩
  · exact each (.binding extension) (Event.mem_bindings_iff.1 shown)
  · cases event with
    | binding extension => exact each extension (Event.mem_bindings_iff.2 shown)
    | fault error => rfl

/-- Two sources find the same bindings but for their order, and one can be walked through to the end
if the other can. -/
structure Alike (equal : EqualityTest) (source other : Source) : Prop where
  /-- The same is found as often. -/
  found : (source.found equal).Perm (other.found equal)
  /-- Both walks reach their end, or neither does. -/
  finishes : (source.walk equal).Finishes ↔ (other.walk equal).Finishes

/-- A union can be walked through to the end if each of its sources can. -/
theorem finishes_union_iff {α : Type} {list : List α} {build : α → Source} :
    ((union (list.map build)).walk equal).Finishes ↔
      ∀ element ∈ list, ((build element).walk equal).Finishes := by
  show (walkAll equal (list.map build)).Finishes ↔ _
  induction list with
  | nil => exact ⟨fun _ _ member => (nomatch member), fun _ => rfl⟩
  | cons element rest ih =>
    rw [List.forall_mem_cons, ← ih]
    exact Walk.finishes_append_iff _ _

namespace Alike

variable {source other : Source}

/-- A source is like itself. -/
theorem refl (source : Source) : Alike equal source source := ⟨List.Perm.refl _, Iff.rfl⟩

/-- Sources that are like one source are alike. -/
theorem trans {third : Source} (alike : Alike equal source other)
    (further : Alike equal other third) : Alike equal source third :=
  ⟨alike.found.trans further.found, alike.finishes.trans further.finishes⟩

/-- Unions of sources that are paired off are alike if paired sources are. -/
theorem union {α β : Type} {list : List α} {others : List β} {build : α → Source}
    {buildOther : β → Source}
    (paired : Multiset.Rel (fun element other => Alike equal (build element) (buildOther other))
      (list : Multiset α) others) :
    Alike equal (.union (list.map build)) (.union (others.map buildOther)) where
  found := by
    rw [found_union, found_union, List.flatMap_map, List.flatMap_map, ← Multiset.coe_eq_coe,
      ← Multiset.coe_bind, ← Multiset.coe_bind, ← Multiset.rel_eq]
    refine Multiset.rel_bind ?_ paired
    intro element other alike
    exact Multiset.rel_eq.2 (Multiset.coe_eq_coe.2 alike.found)
  finishes := by
    rw [finishes_union_iff, finishes_union_iff]
    constructor
    · intro each element member
      obtain ⟨partner, inList, alike⟩ :=
        Multiset.exists_mem_of_rel_of_mem (Multiset.rel_flip.2 paired) member
      exact alike.finishes.1 (each partner inList)
    · intro each element member
      obtain ⟨partner, inList, alike⟩ := Multiset.exists_mem_of_rel_of_mem paired member
      exact alike.finishes.2 (each partner inList)

/-- Unions over lists in another order are alike if the sources for each element are. -/
theorem union_of_perm {α : Type} {list others : List α} {build buildOther : α → Source}
    (permuted : list.Perm others)
    (each : ∀ element ∈ list, Alike equal (build element) (buildOther element)) :
    Alike equal (.union (list.map build)) (.union (others.map buildOther)) := by
  apply union
  rw [← Multiset.coe_eq_coe.2 permuted]
  exact Multiset.rel_refl_of_refl_on each

/-- What stands in the place of bindings can be walked through for both sources or for neither, if
this is so for each binding. -/
theorem finishes_bind_iff (alike : Alike equal source other) {next nextOther : Event → Walk Event}
    (passing : ∀ error, (next (.fault error)).Finishes ∧ (nextOther (.fault error)).Finishes)
    (each : ∀ binding,
      (next (.binding binding)).Finishes ↔ (nextOther (.binding binding)).Finishes) :
    ((source.walk equal).bind next).Finishes ↔ ((other.walk equal).bind nextOther).Finishes :=
  ⟨finishes_bind_of_subset alike.found.symm.subset alike.finishes.1
      (fun error => (passing error).2) fun binding => (each binding).1,
    finishes_bind_of_subset alike.found.subset alike.finishes.2
      (fun error => (passing error).1) fun binding => (each binding).2⟩

/-- Extensions are alike if their sources are. -/
theorem extend (alike : Alike equal source other) (extension : Binding) :
    Alike equal (.extend source extension) (.extend other extension) where
  found := by
    unfold Source.found
    rw [listing, listing, Event.bindings_extensions, Event.bindings_extensions]
    exact (alike.found.filter _).map _
  finishes := alike.finishes_bind_iff (fun _ => ⟨rfl, rfl⟩) fun _ => Iff.rfl

/-- Joins are alike if their sources are. -/
theorem join {right rightOther : Source} (left : Alike equal source other)
    (alike : Alike equal right rightOther) :
    Alike equal (.join source right) (.join other rightOther) where
  found := by
    rw [found_join, found_join]
    exact alike.found.flatMap fun extension _ => (left.found.filter _).map _
  finishes := alike.finishes_bind_iff (fun _ => ⟨rfl, rfl⟩) fun _ =>
    left.finishes_bind_iff (fun _ => ⟨rfl, rfl⟩) fun _ => Iff.rfl

/-- Projections are alike if their sources are. -/
theorem project (alike : Alike equal source other) (kept : List String) :
    Alike equal (.project source kept) (.project other kept) where
  found := by
    unfold Source.found
    rw [listing, listing, Event.bindings_map_restricted, Event.bindings_map_restricted]
    exact alike.found.map _
  finishes := by
    show ((source.walk equal).map _).Finishes ↔ ((other.walk equal).map _).Finishes
    rw [Walk.finishes_map_iff, Walk.finishes_map_iff]
    exact alike.finishes

end Alike

end Source

end GraphPattern
