import GraphPattern.Comparison
import GraphPattern.Proofs.Regrouping

/-!
# Joins of sources in parts

A source may be a union of others, or several enumerations of one. A join in
which it stands then falls into parts too, one for each of its own, whatever
stands in front of it and behind it. Which part of the source a binding comes
from does not change what the binding is compared with, so the test of equality
may be any.

At the end of a join the source drives the outermost loop, and its parts follow
one another in the walk. Elsewhere they meet each binding behind them in turn:
the parts are interleaved, and the faults behind them show once and not once for
each part.

Main statement: the join finds what its parts find, as often, and the walks are
the same if the source stands at the end. So tables of empty bindings only say
how often the rest of a join is repeated.
-/

namespace GraphPattern

namespace Source

variable {equal : EqualityTest}

/-- An operator that puts walks in the places of the events of its operand does so source by source
in a union. -/
theorem walk_union_bind {image : Event → Walk Event} {build : Source → Source}
    (puts : ∀ source, (build source).walk equal = (source.walk equal).bind image)
    (sources : List Source) :
    ((union sources).walk equal).bind image = (union (sources.map build)).walk equal := by
  induction sources with
  | nil => rfl
  | cons source rest ih =>
    have front : (union (source :: rest)).walk equal =
        (source.walk equal).append fun _ => (union rest).walk equal := rfl
    rw [front, Walk.append_bind, ← puts, ih]
    rfl

/-- A union on the right of a join is joined source by source. -/
theorem walk_join_union (equal : EqualityTest) (left : Source) (sources : List Source) :
    (join left (union sources)).walk equal = (union (sources.map (join left))).walk equal :=
  walk_union_bind (fun _ => rfl) sources

/-- An extension of a union extends its sources. -/
theorem walk_extend_union (equal : EqualityTest) (sources : List Source) (extension : Binding) :
    (extend (union sources) extension).walk equal =
      (union (sources.map (extend · extension))).walk equal :=
  walk_union_bind (fun _ => rfl) sources

/-- A number of enumerations of a source is the union of as many copies. -/
theorem walk_multiply (equal : EqualityTest) (source : Source) (times : Nat) :
    (multiply source times).walk equal = (union (List.replicate times source)).walk equal := by
  induction times with
  | zero => rfl
  | succ times ih => exact congrArg (Walk.append _) (funext fun _ => ih)

/-- Unions are walked through alike if their sources are, one by one. -/
theorem walk_union_congr {α : Type} {list : List α} {build other : α → Source}
    (same : ∀ element ∈ list, (build element).walk equal = (other element).walk equal) :
    (union (list.map build)).walk equal = (union (list.map other)).walk equal := by
  induction list with
  | nil => rfl
  | cons element rest ih =>
    rw [List.forall_mem_cons] at same
    show ((build element).walk equal).append _ = ((other element).walk equal).append _
    rw [same.1]
    exact congrArg (Walk.append _) (funext fun _ => ih same.2)

/-- A source of a join may be exchanged for one that is walked through alike. -/
theorem walk_joinAll_congr {source other : Source} (same : source.walk equal = other.walk equal)
    (front back : List Source) :
    (joinAll (front ++ source :: back)).walk equal =
      (joinAll (front ++ other :: back)).walk equal := by
  have here : (join source (joinAll back)).walk equal = (join other (joinAll back)).walk equal := by
    rw [walk, walk, same]
  rw [joinAll_append, joinAll_append]
  exact related_foldr_join (fun source other => source.walk equal = other.walk equal)
    walk_join_congr here front

/-- A union at the end of a join is joined source by source. -/
theorem walk_joinAll_union (equal : EqualityTest) (front sources : List Source) :
    (joinAll (front ++ [union sources])).walk equal =
      (union (sources.map fun source => joinAll (front ++ [source]))).walk equal := by
  induction front with
  | nil =>
    have each : (union (sources.map fun source => joinAll [source])).walk equal =
        (union (sources.map id)).walk equal :=
      walk_union_congr fun source _ => walk_join_empty equal source
    rw [List.map_id] at each
    exact (walk_join_empty equal (union sources)).trans each.symm
  | cons left rest ih =>
    have joined := walk_join_union equal left (sources.map fun source => joinAll (rest ++ [source]))
    rw [List.map_map] at joined
    exact (walk_join_congr left ih).trans joined

/-- A union on the left of a join finds what its sources do there, in another order: they are gone
through for every binding on the right. -/
theorem found_join_union_perm (sources : List Source) (right : Source) :
    ((join (union sources) right).found equal).Perm
      ((union (sources.map (join · right))).found equal) := by
  rw [found_union, List.flatMap_map, found_join, found_union]
  simp only [List.filter_flatMap, List.map_flatMap, found_join]
  rw [← Multiset.coe_eq_coe]
  simp only [← Multiset.coe_bind]
  exact Multiset.bind_bind _ _

/-- A join with a union on its left can be walked through if its right source can, and so can the
joins of that with each source of the union. -/
theorem finishes_join_union_iff (sources : List Source) (right : Source) :
    ((join (union sources) right).walk equal).Finishes ↔
      (right.walk equal).Finishes ∧
        ∀ source ∈ sources, ((join source right).walk equal).Finishes := by
  simp only [finishes_join_iff, walk_extend_union, finishes_union_iff]
  constructor
  · rintro ⟨ends, each⟩
    exact ⟨ends, fun source member =>
      ⟨ends, fun extension shown => each extension shown source member⟩⟩
  · rintro ⟨ends, each⟩
    exact ⟨ends, fun extension shown source member => (each source member).2 extension shown⟩

/-- A join can be walked through only if the join of its last sources can. -/
theorem finishes_joinAll_back {front back : List Source}
    (finishes : ((joinAll (front ++ back)).walk equal).Finishes) :
    ((joinAll back).walk equal).Finishes := by
  induction front with
  | nil => exact finishes
  | cons source rest ih => exact ih (finishes_join_iff.1 finishes).1

/-- A join with a union on its right is like the union of the joins with each source of it. -/
theorem alike_join_union (equal : EqualityTest) (left : Source) (sources : List Source) :
    Alike equal (join left (union sources)) (union (sources.map (join left))) := by
  refine ⟨?_, by rw [walk_join_union]⟩
  rw [found_join, found_union, found_union, List.flatMap_map, List.flatMap_assoc]
  simp only [found_join]
  exact List.Perm.refl _

/-- A join with a union among its sources is like the union of the joins with each source of it,
provided that what stands behind can be walked through: with a union of nothing it is walked through
all the same. -/
theorem alike_joinAll_union (front sources : List Source) {back : List Source}
    (ends : ((joinAll back).walk equal).Finishes) :
    Alike equal (joinAll (front ++ union sources :: back))
      (union (sources.map fun source => joinAll (front ++ source :: back))) := by
  induction front with
  | nil =>
    refine ⟨found_join_union_perm sources (joinAll back), ?_⟩
    rw [finishes_union_iff]
    exact (finishes_join_union_iff sources (joinAll back)).trans (and_iff_right ends)
  | cons left rest ih =>
    have joined := alike_join_union equal left
      (sources.map fun source => joinAll (rest ++ source :: back))
    rw [List.map_map] at joined
    exact ((Alike.refl left).join ih).trans joined

/-- As many copies of lists that are the same but for their order are the same but for it. -/
theorem perm_copies {list other : List Binding} (permuted : list.Perm other) (times : Nat) :
    (List.replicate times list).flatten.Perm (List.replicate times other).flatten := by
  induction times with
  | zero => exact List.Perm.refl _
  | succ times ih => exact permuted.append ih

/-- If a source can be walked through to the end, then so can the other one, and both show the same
bindings but for their order. -/
structure Reduces (equal : EqualityTest) (source other : Source) : Prop where
  /-- The other walk reaches its end if the first does. -/
  finishes : (source.walk equal).Finishes → (other.walk equal).Finishes
  /-- The same bindings are shown as often. -/
  bindings : (source.walk equal).Finishes → (source.bindings equal).Perm (other.bindings equal)

namespace Reduces

variable {source other : Source}

/-- A source reduces to one that is walked through alike. -/
theorem of_walk_eq (same : source.walk equal = other.walk equal) : Reduces equal source other where
  finishes ends := same ▸ ends
  bindings _ := by rw [Source.bindings, Source.bindings, same]

/-- Reductions follow one another. -/
theorem trans {third : Source} (reduces : Reduces equal source other)
    (further : Reduces equal other third) : Reduces equal source third where
  finishes ends := further.finishes (reduces.finishes ends)
  bindings ends := (reduces.bindings ends).trans (further.bindings (reduces.finishes ends))

/-- A multiple reduces with its operand, which is not walked through if there is no copy of it. -/
theorem multiply (reduces : Reduces equal source other) (times : Nat) :
    Reduces equal (.multiply source times) (.multiply other times) := by
  cases times with
  | zero => exact of_walk_eq rfl
  | succ times =>
    have operand : ∀ {part : Source}, ((Source.multiply part (times + 1)).walk equal).Finishes →
        (part.walk equal).Finishes := fun ends => ((Walk.finishes_append_iff _ _).1 ends).1
    have ends : ((Source.multiply source (times + 1)).walk equal).Finishes →
        ((Source.multiply other (times + 1)).walk equal).Finishes := fun ends =>
      (reduces.finishes (operand ends)).copies (times + 1)
    refine ⟨ends, fun finishes => ?_⟩
    have once : (source.found equal).Perm (other.found equal) := by
      rw [← bindings_eq_found (operand finishes),
        ← bindings_eq_found (reduces.finishes (operand finishes))]
      exact reduces.bindings (operand finishes)
    rw [bindings_eq_found finishes, bindings_eq_found (ends finishes), found_multiply,
      found_multiply]
    exact perm_copies once (times + 1)

end Reduces

/-- A join of several sources, some of them at its end, has come apart into smaller joins: its
bindings are those of a source that is put together from them. -/
structure Distributed (equal : EqualityTest) (back : List Source) (joined parts : Source) : Prop
    where
  /-- The join can be walked through exactly if its parts can, and what stands at its end. -/
  finishes : (joined.walk equal).Finishes ↔
    ((joinAll back).walk equal).Finishes ∧ (parts.walk equal).Finishes
  /-- Then the same bindings are shown as often. -/
  bindings : (joined.walk equal).Finishes → (joined.bindings equal).Perm (parts.bindings equal)
  /-- The walks are the same if nothing stands at the end. -/
  walk : back = [] → joined.walk equal = parts.walk equal

/-- A join with a union among its sources comes apart into the joins with each source of it. -/
theorem distributed_union (equal : EqualityTest) (front sources back : List Source) :
    Distributed equal back (joinAll (front ++ union sources :: back))
      (union (sources.map fun source => joinAll (front ++ source :: back))) where
  finishes := by
    constructor
    · intro finishes
      have ends : ((joinAll (union sources :: back)).walk equal).Finishes :=
        finishes_joinAll_back finishes
      have behind := (finishes_join_iff.1 ends).1
      exact ⟨behind, (alike_joinAll_union front sources behind).finishes.1 finishes⟩
    · rintro ⟨behind, finishes⟩
      exact (alike_joinAll_union front sources behind).finishes.2 finishes
  bindings finishes := by
    have ends : ((joinAll (union sources :: back)).walk equal).Finishes :=
      finishes_joinAll_back finishes
    have alike := alike_joinAll_union front sources (finishes_join_iff.1 ends).1
    rw [bindings_eq_found finishes, bindings_eq_found (alike.finishes.1 finishes)]
    exact alike.found
  walk := by
    rintro rfl
    exact walk_joinAll_union equal front sources

namespace Distributed

variable {back : List Source} {joined parts : Source}

/-- Only the walks through a join and its parts matter. -/
theorem congr (distributed : Distributed equal back joined parts) {other otherParts : Source}
    (same : other.walk equal = joined.walk equal)
    (sameParts : otherParts.walk equal = parts.walk equal) :
    Distributed equal back other otherParts := by
  obtain ⟨finishes, bindings, walk⟩ := distributed
  constructor
  · rw [same, sameParts]
    exact finishes
  · rw [Source.bindings, Source.bindings, same, sameParts]
    exact bindings
  · rw [same, sameParts]
    exact walk

/-- A join that comes apart reduces to its parts. -/
theorem reduces (distributed : Distributed equal back joined parts) :
    Reduces equal joined parts :=
  ⟨fun finishes => (distributed.finishes.1 finishes).2, distributed.bindings⟩

end Distributed

/-- A join with a multiple among its sources is as many enumerations of the join with its
operand. -/
theorem distributed_multiply (equal : EqualityTest) (front : List Source) (source : Source)
    (times : Nat) (back : List Source) :
    Distributed equal back (joinAll (front ++ multiply source times :: back))
      (multiply (joinAll (front ++ source :: back)) times) := by
  have copied := distributed_union equal front (List.replicate times source) back
  rw [List.map_replicate] at copied
  exact copied.congr (walk_joinAll_congr (walk_multiply equal source times) front back)
    (walk_multiply equal _ times)

/-- A table of empty bindings. -/
def emptyTable (count : Nat) : Source := table (List.replicate count .empty)

/-- A table of empty bindings is walked through like as many enumerations of one. -/
theorem walk_emptyTable (equal : EqualityTest) (count : Nat) :
    (emptyTable count).walk equal = (multiply (single .empty) count).walk equal := by
  induction count with
  | zero => rfl
  | succ count ih => exact congrArg (Walk.emit _) (funext fun _ => ih)

/-- The single empty binding may be left out of a join. -/
theorem walk_joinAll_single_empty (equal : EqualityTest) (front back : List Source) :
    (joinAll (front ++ single .empty :: back)).walk equal =
      (joinAll (front ++ back)).walk equal := by
  rw [joinAll_append, joinAll_append]
  exact related_foldr_join (fun source other => source.walk equal = other.walk equal)
    walk_join_congr (walk_empty_join equal (joinAll back)) front

/-- A join with a table of empty bindings among its sources is as many enumerations of the join
without it. -/
theorem distributed_emptyTable (equal : EqualityTest) (front : List Source) (count : Nat)
    (back : List Source) :
    Distributed equal back (joinAll (front ++ emptyTable count :: back))
      (multiply (joinAll (front ++ back)) count) := by
  have copied := distributed_multiply equal front (single .empty) count back
  refine copied.congr (walk_joinAll_congr (walk_emptyTable equal count) front back) ?_
  rw [walk, walk, walk_joinAll_single_empty]

/-- Repetitions of a join that reduces to repetitions of a source are repetitions of the source. -/
theorem Reduces.repeated {joined rest source : Source} {count times : Nat}
    (outer : Reduces equal joined (.multiply rest count))
    (inner : Reduces equal rest (.multiply source times)) :
    Reduces equal joined (.multiply source (count * times)) := by
  have copied : (Source.multiply (.multiply source times) count).walk equal =
      (Source.multiply source (count * times)).walk equal := by
    rw [walk, walk, walk, Walk.copies_copies]
  exact (outer.trans (inner.multiply count)).trans (.of_walk_eq copied)

/-- Tables of empty bindings behind a source repeat it. -/
theorem reduces_emptyTables_behind (equal : EqualityTest) (source : Source) (after : List Nat) :
    Reduces equal (joinAll (source :: after.map emptyTable)) (multiply source after.prod) := by
  induction after with
  | nil =>
    have once : (multiply source 1).walk equal = source.walk equal := Walk.append_done _
    exact .of_walk_eq ((walk_join_empty equal source).trans once.symm)
  | cons count rest ih =>
    rw [List.prod_cons]
    exact (distributed_emptyTable equal [source] count (rest.map emptyTable)).reduces.repeated ih

/-- Tables of empty bindings on both sides of a source repeat it. -/
theorem reduces_emptyTables (equal : EqualityTest) (before : List Nat) (source : Source)
    (after : List Nat) :
    Reduces equal (joinAll (before.map emptyTable ++ source :: after.map emptyTable))
      (multiply source (before ++ after).prod) := by
  induction before with
  | nil => exact reduces_emptyTables_behind equal source after
  | cons count rest ih =>
    rw [List.cons_append, List.prod_cons]
    exact (distributed_emptyTable equal [] count _).reduces.repeated ih

/-- Tables of empty bindings keep no join from its end. -/
theorem finishes_emptyTables {source : Source} (ends : (source.walk equal).Finishes)
    (before after : List Nat) :
    ((joinAll (before.map emptyTable ++ source :: after.map emptyTable)).walk equal).Finishes := by
  have tables : ∀ counts : List Nat, ((joinAll (counts.map emptyTable)).walk equal).Finishes := by
    intro counts
    induction counts with
    | nil => rfl
    | cons count rest ih =>
      exact (distributed_emptyTable equal [] count _).finishes.2 ⟨ih, ih.copies count⟩
  induction before with
  | nil =>
    induction after with
    | nil =>
      show ((join source (single .empty)).walk equal).Finishes
      rw [walk_join_empty]
      exact ends
    | cons count rest ih =>
      exact (distributed_emptyTable equal [source] count _).finishes.2
        ⟨tables rest, ih.copies count⟩
  | cons count rest ih =>
    exact (distributed_emptyTable equal [] count _).finishes.2 ⟨ih, ih.copies count⟩

/-- Joins distribute over unions and multiples. Let a union, or a number of enumerations of one
source, stand anywhere in a join. Under every test of equality, the join comes apart: its bindings
are, but for their order, those of the union of the joins with each source of the union, or those of
as many enumerations of the join with the source. Both are walked through alike, faults and
comparisons included, if nothing stands behind. The join can be walked through exactly if its parts
can, and what stands behind, and so it can if the test answers for all values and no source ends in
an error.

So a source that is joined with tables of empty bindings, wherever they stand, is repeated, and the
number of repetitions is the product of the numbers of empty bindings. -/
theorem bindings_joinAll_distributed (equal : EqualityTest) (front back : List Source) :
    (∀ sources : List Source,
      let joined := joinAll (front ++ union sources :: back)
      Distributed equal back joined
          (union (sources.map fun source => joinAll (front ++ source :: back))) ∧
        (equal.Total → (∀ source ∈ front ++ sources ++ back, (source.walk equal).Finishes) →
          (joined.walk equal).Finishes)) ∧
    (∀ (source : Source) (times : Nat),
      let joined := joinAll (front ++ multiply source times :: back)
      Distributed equal back joined (multiply (joinAll (front ++ source :: back)) times) ∧
        (equal.Total → (∀ other ∈ front ++ source :: back, (other.walk equal).Finishes) →
          (joined.walk equal).Finishes)) ∧
    ∀ (before : List Nat) (source : Source) (after : List Nat),
      let joined := joinAll (before.map emptyTable ++ source :: after.map emptyTable)
      Reduces equal joined (multiply source (before ++ after).prod) ∧
        ((source.walk equal).Finishes → (joined.walk equal).Finishes) := by
  refine ⟨fun sources => ⟨distributed_union equal front sources back, fun total finish => ?_⟩,
    fun source times => ⟨distributed_multiply equal front source times back,
      fun total finish => ?_⟩,
    fun before source after => ⟨reduces_emptyTables equal before source after,
      fun ends => finishes_emptyTables ends before after⟩⟩
  · rw [List.append_assoc, List.forall_mem_append, List.forall_mem_append] at finish
    obtain ⟨inFront, inUnion, inBack⟩ := finish
    have unionFinishes : ((union (sources.map id)).walk equal).Finishes :=
      finishes_union_iff.2 inUnion
    rw [List.map_id] at unionFinishes
    exact finishes_joinAll total _
      (List.forall_mem_append.2 ⟨inFront, List.forall_mem_cons.2 ⟨unionFinishes, inBack⟩⟩)
  · rw [List.forall_mem_append, List.forall_mem_cons] at finish
    obtain ⟨inFront, here, inBack⟩ := finish
    have copies : ((multiply source times).walk equal).Finishes := here.copies times
    exact finishes_joinAll total _
      (List.forall_mem_append.2 ⟨inFront, List.forall_mem_cons.2 ⟨copies, inBack⟩⟩)

/-- A union in the middle of a join, under a test that is not symmetric. The union's sources take
turns for each binding behind them, and in the parts one follows the other. Two tables of empty
bindings around two bindings give each of these six times. -/
theorem bindings_joinAll_distributed_middle :
    let equal : EqualityTest := .atMost
    let front : List Source := [table [.single "x" (.int 1), .single "x" (.int 5)]]
    let sources : List Source :=
      [single (.single "y" (.int 1)), union [failure .beyondEnd, single (.single "y" (.int 2))]]
    let back : List Source := [table [.single "x" (.int 3), .single "x" (.int 4)]]
    let joined := joinAll (front ++ union sources :: back)
    let parts := union (sources.map fun source => joinAll (front ++ source :: back))
    let pair : Source := table [.single "x" (.int 1), .single "x" (.int 2)]
    let repeated := joinAll ([2].map emptyTable ++ pair :: [3].map emptyTable)
    let shown (name : String) (source : Source) := (source.walk equal).elements.map fun event =>
      event.binding?.map fun binding => (binding.get? name).bind Value.integer?
    (joined.bindings equal).Perm (parts.bindings equal) ∧
      shown "y" joined = [some (some 1), none, some (some 2), some (some 1), none, some (some 2)] ∧
      shown "y" parts = [some (some 1), some (some 1), none, some (some 2), none, some (some 2)] ∧
      (repeated.bindings equal).Perm ((multiply pair 6).bindings equal) ∧
      (shown "x" repeated).take 3 = [some (some 1), some (some 1), some (some 2)] := by
  intro equal front sources back joined parts pair repeated shown
  obtain ⟨unions, _, tables⟩ := bindings_joinAll_distributed equal front back
  have joinedFinishes : (joined.walk equal).Finishes := by
    clear * -
    subst joined back sources front equal
    exact Option.isNone_iff_eq_none.1 (by decide +kernel)
  obtain ⟨reduces, finish⟩ := tables [2] pair [3]
  have repeatedFinishes : (repeated.walk equal).Finishes := finish rfl
  refine ⟨(unions sources).1.bindings joinedFinishes, ?_, ?_,
    reduces.bindings repeatedFinishes, ?_⟩
  · clear * -
    subst shown joined back sources front equal
    decide +kernel
  · clear * -
    subst shown parts back sources front equal
    decide +kernel
  · clear * -
    subst shown repeated pair equal
    decide +kernel

end Source

end GraphPattern
