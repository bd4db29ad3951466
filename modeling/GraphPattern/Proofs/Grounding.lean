import GraphPattern.Proofs.Finding
import GraphPattern.Proofs.Sameness

/-!
# Taking a variable out of bindings

A variable that is replaced by an identifier no longer takes part in joins.
What is found without it is what was found with it wherever its value named the
identifier, with the variable taken out. This module says so of sources: it
relates a source with a variable to one in which the variable was replaced, and
shows that unions, extensions, joins and projections respect the relation. The
test of equality is sameness of graph values.

The step that carries the relation through joins is that sameness respects
identifiers: if the values that two bindings give to the variable are the same
and one of them names the identifier, then so does the other.
-/

namespace GraphPattern

namespace Binding

/-- The binding without one of its variables. -/
def without (binding : Binding) (name : String) : Binding where
  entries := binding.entries.filter fun entry => entry.1 != name
  distinct := binding.distinct.sublist (List.filter_sublist.map _)

/-- What a binding gives to a variable, if anything, names an identifier. -/
def Allows (binding : Binding) (name identifier : String) : Prop :=
  ∀ value, binding.get? name = some value → identifierOf value = some identifier

/-- Taking out a variable changes no other one. -/
theorem get?_without (binding : Binding) (name other : String) :
    (binding.without name).get? other = if other = name then none else binding.get? other := by
  rw [without, get?, Entries.get?_filter binding.entries (· != name) other]
  by_cases same : other = name
  · rw [if_pos same, if_neg (by simp [same])]
  · rw [if_neg same, if_pos (by simp [same])]
    rfl

/-- Nothing is taken out of a binding that does not bind the variable. -/
theorem without_of_get?_eq_none {binding : Binding} {name : String}
    (free : binding.get? name = none) : binding.without name = binding := by
  ext1
  rw [without, List.filter_eq_self]
  intro entry member
  rw [bne_iff_ne]
  rintro rfl
  have bound : entry.1 ∈ binding.keys := List.mem_map_of_mem member
  rw [get?_eq_none_iff] at free
  exact free bound

/-- Taking out the only variable leaves nothing. -/
theorem without_single (name : String) (value : Value) :
    (single name value).without name = empty := by
  ext1
  simp [without, single, empty]

/-- Taking a variable out of a merge takes it out of both parts. -/
theorem without_merged (binding extension : Binding) (name : String) :
    (binding.merged extension).without name =
      (binding.without name).merged (extension.without name) := by
  ext1
  show ((binding.entries ++ extension.entries.filter fun entry => !binding.has entry.1).filter
      fun entry => entry.1 != name) =
    (binding.entries.filter fun entry => entry.1 != name) ++
      ((extension.entries.filter fun entry => entry.1 != name).filter fun entry =>
        !(binding.without name).has entry.1)
  rw [List.filter_append, List.filter_filter, List.filter_filter]
  congr 1
  refine List.filter_congr fun entry _ => ?_
  rw [has_eq_isSome (binding.without name), get?_without, has_eq_isSome]
  by_cases same : entry.1 = name
  · simp [same]
  · rw [if_neg same, Bool.and_comm]

/-- Taking out a variable and restricting to some do not depend on their order. -/
theorem without_restricted (binding : Binding) (kept : List String) (name : String) :
    (binding.restricted kept).without name = (binding.without name).restricted kept := by
  ext1
  simp only [without, restricted, List.filter_filter]
  refine List.filter_congr fun entry _ => Bool.and_comm _ _

/-- Bindings agree in all other variables exactly if they agree without one, and if both name an
identifier by that one then they agree in it as well. -/
theorem agrees_without_iff {binding extension : Binding} {name identifier : String}
    (first : binding.Allows name identifier) (second : extension.Allows name identifier) :
    (binding.without name).agrees .sameTerm (extension.without name) = true ↔
      binding.agrees .sameTerm extension = true := by
  rw [agrees_iff, agrees_iff]
  constructor
  · intro agreeing other new bound given held
    by_cases same : other = name
    · subst same
      exact Value.sameTerm_of_identifierOf (second new given) (first bound held)
    · have keptNew := get?_without extension name other
      have keptBound := get?_without binding name other
      rw [if_neg same] at keptNew keptBound
      exact agreeing other new bound (keptNew.trans given) (keptBound.trans held)
  · intro agreeing other new bound given held
    rw [get?_without] at given held
    by_cases same : other = name
    · rw [if_pos same] at given
      cases given
    · rw [if_neg same] at given held
      exact agreeing other new bound given held

/-- A variable is plain in a binding if the value that it has there, if any, is. -/
def PlainAt (binding : Binding) (name : String) : Prop :=
  ∀ value, binding.get? name = some value → value.Plain

/-- A variable that is plain in both parts of a merge is plain in it. -/
theorem plainAt_merged {binding extension : Binding} {name : String}
    (first : binding.PlainAt name) (second : extension.PlainAt name) :
    (binding.merged extension).PlainAt name := by
  intro value held
  rw [get?_merged] at held
  cases bound : binding.get? name with
  | some given =>
    rw [bound, Option.some_or] at held
    exact first value (bound.trans held)
  | none =>
    rw [bound, Option.none_or] at held
    exact second value held

/-- A merge of bindings that agree names an identifier by a variable exactly if both do, so far as
they bind it. -/
theorem allows_merged_iff {binding extension : Binding} {name identifier : String}
    (plain : binding.PlainAt name) (plainExtension : extension.PlainAt name)
    (agreeing : binding.agrees .sameTerm extension = true) :
    (binding.merged extension).Allows name identifier ↔
      binding.Allows name identifier ∧ extension.Allows name identifier := by
  unfold Allows
  rw [get?_merged]
  cases bound : binding.get? name with
  | none => simp
  | some value =>
    rw [Option.some_or]
    constructor
    · intro merged
      have named := merged value rfl
      refine ⟨merged, fun new given => ?_⟩
      -- The extension's value is compared with the one that is bound already.
      have same : new.sameTerm value = true :=
        (agrees_iff .sameTerm binding extension).1 agreeing name new value given bound
      exact (Value.identifierOf_iff_of_sameTerm identifier (plainExtension new given)
        (plain value bound) same).2 named
    · exact fun both => both.1

end Binding

namespace Source

/-- A source in which a variable was replaced by an identifier finds the bindings of the source
before whose value of the variable, if there is one, names the identifier, without the variable.
All values of the variable are plain. -/
structure Grounded (name identifier : String) (before after : Source) : Prop where
  /-- The values of the variable are plain. -/
  plain : ∀ binding ∈ before.found .sameTerm, binding.PlainAt name
  /-- What is found after was found before, with the variable. -/
  sound : ∀ binding ∈ after.found .sameTerm, ∃ whole ∈ before.found .sameTerm,
    whole.Allows name identifier ∧ binding = whole.without name
  /-- What was found before and names the identifier is found after, without the variable. -/
  complete : ∀ whole ∈ before.found .sameTerm, whole.Allows name identifier →
    whole.without name ∈ after.found .sameTerm

namespace Grounded

variable {name identifier : String} {α : Type}

/-- A source that does not bind the variable stays as it is. -/
theorem of_free {source : Source}
    (free : ∀ binding ∈ source.found .sameTerm, binding.get? name = none) :
    Grounded name identifier source source where
  plain binding member value held := by
    rw [free binding member] at held
    cases held
  sound binding member := by
    refine ⟨binding, member, fun value held => ?_, ?_⟩
    · rw [free binding member] at held
      cases held
    · exact (Binding.without_of_get?_eq_none (free binding member)).symm
  complete whole member _ := by
    rw [Binding.without_of_get?_eq_none (free whole member)]
    exact member

/-- Unions are grounded source by source. -/
theorem union {list : List α} {before after : α → Source}
    (each : ∀ element ∈ list, Grounded name identifier (before element) (after element)) :
    Grounded name identifier (.union (list.map before)) (.union (list.map after)) where
  plain binding member := by
    obtain ⟨element, inList, found⟩ := mem_found_union_iff.1 member
    exact (each element inList).plain binding found
  sound binding member := by
    obtain ⟨element, inList, found⟩ := mem_found_union_iff.1 member
    obtain ⟨whole, before, allows, same⟩ := (each element inList).sound binding found
    exact ⟨whole, mem_found_union_iff.2 ⟨element, inList, before⟩, allows, same⟩
  complete whole member allows := by
    obtain ⟨element, inList, found⟩ := mem_found_union_iff.1 member
    exact mem_found_union_iff.2 ⟨element, inList, (each element inList).complete whole found allows⟩

/-- Joins are grounded side by side. -/
theorem join {left leftAfter right rightAfter : Source}
    (first : Grounded name identifier left leftAfter)
    (second : Grounded name identifier right rightAfter) :
    Grounded name identifier (.join left right) (.join leftAfter rightAfter) where
  plain binding member := by
    obtain ⟨front, inLeft, back, inRight, _, rfl⟩ := mem_found_join_iff.1 member
    exact Binding.plainAt_merged (first.plain front inLeft) (second.plain back inRight)
  sound binding member := by
    obtain ⟨front, inLeft, back, inRight, agreeing, rfl⟩ := mem_found_join_iff.1 member
    obtain ⟨wholeFront, foundFront, allowsFront, rfl⟩ := first.sound front inLeft
    obtain ⟨wholeBack, foundBack, allowsBack, rfl⟩ := second.sound back inRight
    rw [Binding.agrees_without_iff allowsFront allowsBack] at agreeing
    refine ⟨wholeFront.merged wholeBack,
      mem_found_join_iff.2 ⟨_, foundFront, _, foundBack, agreeing, rfl⟩, ?_,
      (Binding.without_merged _ _ _).symm⟩
    have plainFront := first.plain wholeFront foundFront
    have plainBack := second.plain wholeBack foundBack
    exact (Binding.allows_merged_iff plainFront plainBack agreeing).2 ⟨allowsFront, allowsBack⟩
  complete whole member allows := by
    obtain ⟨front, inLeft, back, inRight, agreeing, rfl⟩ := mem_found_join_iff.1 member
    have plainFront := first.plain front inLeft
    have plainBack := second.plain back inRight
    obtain ⟨allowsFront, allowsBack⟩ :=
      (Binding.allows_merged_iff plainFront plainBack agreeing).1 allows
    rw [Binding.without_merged]
    exact mem_found_join_iff.2 ⟨_, first.complete front inLeft allowsFront, _,
      second.complete back inRight allowsBack,
      (Binding.agrees_without_iff allowsFront allowsBack).2 agreeing, rfl⟩

/-- Joins of many sources are grounded source by source. -/
theorem joinAll {list : List α} {before after : α → Source}
    (each : ∀ element ∈ list, Grounded name identifier (before element) (after element)) :
    Grounded name identifier (.joinAll (list.map before)) (.joinAll (list.map after)) := by
  induction list with
  | nil =>
    apply of_free
    intro binding member
    rw [mem_found_single_iff.1 member]
    rfl
  | cons element rest ih =>
    rw [List.forall_mem_cons] at each
    exact each.1.join (ih each.2)

/-- Extensions by another variable are grounded with their source. -/
theorem extend {before after : Source} (grounded : Grounded name identifier before after)
    {other : String} (different : other ≠ name) (value : Value) :
    Grounded name identifier (.extend before (Binding.single other value))
      (.extend after (Binding.single other value)) := by
  have free : ∀ binding ∈ (Source.single (Binding.single other value)).found .sameTerm,
      binding.get? name = none := by
    intro binding member
    rw [mem_found_single_iff.1 member, Binding.get?_single, if_neg different]
  have extended : ∀ (source : Source) (binding : Binding),
      binding ∈ (Source.extend source (Binding.single other value)).found .sameTerm ↔
        binding ∈ (Source.join source (.single (Binding.single other value))).found
          .sameTerm := by
    intro source binding
    rw [mem_found_extend_iff, mem_found_join_iff]
    simp only [mem_found_single_iff, exists_eq_left]
  have joined := grounded.join (of_free free)
  refine ⟨?_, ?_, ?_⟩
  · simpa only [extended] using joined.plain
  · simpa only [extended] using joined.sound
  · simpa only [extended] using joined.complete

/-- Projections onto variables, this one among them, are grounded with their source. -/
theorem project {before after : Source} (grounded : Grounded name identifier before after)
    {kept : List String} (keeps : name ∈ kept) :
    Grounded name identifier (.project before kept) (.project after kept) := by
  have same : ∀ binding : Binding, (binding.restricted kept).get? name = binding.get? name := by
    intro binding
    rw [Binding.get?_restricted, if_pos (List.contains_iff_mem.2 keeps)]
  refine ⟨fun binding member => ?_, fun binding member => ?_, fun whole member allows => ?_⟩
  · obtain ⟨first, found, rfl⟩ := mem_found_project_iff.1 member
    intro value held
    exact grounded.plain first found value ((same first).symm.trans held)
  · obtain ⟨first, found, rfl⟩ := mem_found_project_iff.1 member
    obtain ⟨whole, before, allows, rfl⟩ := grounded.sound first found
    refine ⟨_, mem_found_project_iff.2 ⟨whole, before, rfl⟩, fun value held => ?_,
      (Binding.without_restricted _ _ _).symm⟩
    exact allows value ((same whole).symm.trans held)
  · obtain ⟨first, found, rfl⟩ := mem_found_project_iff.1 member
    rw [Binding.without_restricted]
    refine mem_found_project_iff.2 ⟨_, grounded.complete first found fun value held => ?_, rfl⟩
    exact allows value ((same first).trans held)

end Grounded

/-- All that a source finds binds a variable. -/
def Binds (equal : EqualityTest) (name : String) (source : Source) : Prop :=
  ∀ binding ∈ source.found equal, (binding.get? name).isSome = true

section Binding

variable {equal : EqualityTest} {name : String} {α : Type}

/-- A union binds a variable if all its sources do. -/
theorem binds_union {list : List α} {build : α → Source}
    (each : ∀ element ∈ list, (build element).Binds equal name) :
    (union (list.map build)).Binds equal name := by
  intro binding member
  obtain ⟨element, inList, found⟩ := mem_found_union_iff.1 member
  exact each element inList binding found

/-- A merge binds a variable if the first or the second part does. -/
theorem isSome_get?_merged {first second : Binding}
    (bound : (first.get? name).isSome = true ∨ (second.get? name).isSome = true) :
    ((first.merged second).get? name).isSome = true := by
  rw [Binding.get?_merged, Option.isSome_or, Bool.or_eq_true]
  exact bound

/-- A join binds a variable if one of its sources does. -/
theorem binds_joinAll {list : List α} {build : α → Source}
    (one : ∃ element ∈ list, (build element).Binds equal name) :
    (joinAll (list.map build)).Binds equal name := by
  obtain ⟨element, inList, binds⟩ := one
  induction list with
  | nil => cases inList
  | cons first rest ih =>
    intro binding member
    obtain ⟨front, inFront, back, inBack, _, rfl⟩ := mem_found_join_iff.1 member
    apply isSome_get?_merged
    rcases List.mem_cons.1 inList with rfl | later
    · exact .inl (binds front inFront)
    · exact .inr (ih later back inBack)

/-- An extension binds a variable if its source or the added binding does. -/
theorem binds_extend {source : Source} {extension : Binding}
    (bound : source.Binds equal name ∨ (extension.get? name).isSome = true) :
    (extend source extension).Binds equal name := by
  intro binding member
  obtain ⟨first, found, _, rfl⟩ := mem_found_extend_iff.1 member
  exact isSome_get?_merged (bound.imp_left fun binds => binds first found)

/-- A projection onto a variable binds it if its source does. -/
theorem Binds.project {source : Source} (binds : source.Binds equal name) {kept : List String}
    (keeps : name ∈ kept) : (source.project kept).Binds equal name := by
  intro binding member
  obtain ⟨first, found, rfl⟩ := mem_found_project_iff.1 member
  rw [Binding.get?_restricted, if_pos (List.contains_iff_mem.2 keeps)]
  exact binds first found

end Binding

end Source

end GraphPattern
