import GraphPattern.Proofs.Composition
import GraphPattern.Proofs.Listing
import Mathlib.Data.List.Nodup
import Mathlib.Logic.Embedding.Basic

/-!
# Renaming variables

Two variables are told apart by their names, and nothing else is done with a
name. So if names are replaced by others, different ones by different ones, then
bindings are compared, merged and restricted as before, and nobody who goes
through a source sees anything but the new names.

Main statement: the walk through a source whose variables were renamed is the
walk through the source before, comparisons and errors included, with the
variables renamed in each of its bindings. No assumption is made about the test
of equality, which never sees a name.
-/

namespace GraphPattern

namespace Entries

variable {α : Type}

/-- Entries with other names. -/
def renamed (rename : String → String) (entries : Entries α) : Entries α :=
  entries.map fun entry => (rename entry.1, entry.2)

@[simp] theorem keys_renamed (rename : String → String) (entries : Entries α) :
    keys (entries.renamed rename) = (keys entries).map rename := by
  rw [keys, keys, renamed, List.map_map, List.map_map]
  rfl

/-- Under a new name stands what stood under the old one, if no other name was replaced by it. -/
theorem get?_renamed {rename : String → String} {entries : Entries α} {key : String}
    (only : ∀ name ∈ keys entries, rename name = rename key → name = key) :
    get? (entries.renamed rename) (rename key) = entries.get? key := by
  induction entries with
  | nil => rfl
  | cons entry rest ih =>
    obtain ⟨name, value⟩ := entry
    rw [keys_cons, List.forall_mem_cons] at only
    show (if rename name = rename key then some value
        else get? (renamed rename rest) (rename key)) =
      if name = key then some value else get? rest key
    rw [ih only.2]
    by_cases same : name = key
    · rw [if_pos same, if_pos (congrArg rename same)]
    · rw [if_neg same, if_neg fun replaced => same (only.1 replaced)]

end Entries

variable (rename : String ↪ String)

namespace Binding

/-- A binding of other variables to the same values. -/
def renamed (binding : Binding) : Binding where
  entries := binding.entries.renamed rename
  distinct := by
    rw [Entries.keys_renamed]
    exact List.Nodup.map rename.injective binding.distinct

/-- The value of a variable under its new name. -/
@[simp] theorem get?_renamed (binding : Binding) (name : String) :
    (binding.renamed rename).get? (rename name) = binding.get? name :=
  Entries.get?_renamed fun _ _ same => rename.injective same

/-- Whether a variable is bound under its new name. -/
@[simp] theorem has_renamed (binding : Binding) (name : String) :
    (binding.renamed rename).has (rename name) = binding.has name :=
  congrArg Option.isSome (get?_renamed rename binding name)

/-- The same values meet when both bindings have new names. -/
theorem shared_renamed (binding extension : Binding) :
    (binding.renamed rename).shared (extension.renamed rename) = binding.shared extension := by
  show List.filterMap _ (extension.entries.map _) = _
  rw [List.filterMap_map]
  refine List.filterMap_congr fun entry _ => ?_
  show ((binding.renamed rename).get? (rename entry.1)).map _ = (binding.get? entry.1).map _
  rw [get?_renamed]

/-- Bindings with new names are merged as before. -/
theorem merged_renamed (binding other : Binding) :
    (binding.renamed rename).merged (other.renamed rename) =
      (binding.merged other).renamed rename := by
  ext1
  show binding.entries.renamed rename ++ List.filter _ (other.entries.map _) =
    List.map _ (binding.entries ++ other.entries.filter _)
  rw [List.map_append, List.filter_map]
  simp only [Function.comp_def, has_renamed]
  rfl

/-- Bindings with new names are restricted to new names as before. -/
theorem restricted_renamed (binding : Binding) (kept : List String) :
    (binding.renamed rename).restricted (kept.map rename) =
      (binding.restricted kept).renamed rename := by
  have sameKept : ∀ name, (kept.map rename).contains (rename name) = kept.contains name := by
    intro name
    rw [Bool.eq_iff_iff, List.contains_iff_mem, List.contains_iff_mem,
      List.mem_map_of_injective rename.injective]
  ext1
  show List.filter _ (binding.entries.map _) = List.map _ (binding.entries.filter _)
  rw [List.filter_map]
  simp only [Function.comp_def, sameKept]

/-- A binding all of whose variables keep their names is the same. -/
theorem renamed_eq_self {binding : Binding} (fixed : ∀ name ∈ binding.keys, rename name = name) :
    binding.renamed rename = binding := by
  ext1
  have same : ∀ entry ∈ binding.entries, (rename entry.1, entry.2) = entry :=
    fun entry member => Prod.ext (fixed entry.1 (List.mem_map_of_mem member)) rfl
  exact (List.map_congr_left same).trans (List.map_id' _)

end Binding

namespace Event

/-- The event with other variables in its binding. -/
def renamed : Event → Event
  | binding bound => binding (bound.renamed rename)
  | fault error => fault error

/-- An event with new names is extended by a binding with new names as before. -/
theorem extended_renamed (equal : EqualityTest) (extension : Binding) (event : Event) :
    (event.renamed rename).extended equal (extension.renamed rename) =
      (event.extended equal extension).map (renamed rename) := by
  cases event with
  | fault error => rfl
  | binding bound =>
    simp only [renamed, extended, Walk.map_agreeing, Binding.shared_renamed,
      Binding.merged_renamed]

/-- An event with new names is restricted to new names as before. -/
theorem restricted_renamed (kept : List String) (event : Event) :
    (event.renamed rename).restricted (kept.map rename) =
      (event.restricted kept).renamed rename := by
  cases event with
  | fault error => rfl
  | binding bound => simp only [renamed, restricted, Binding.restricted_renamed]

/-- Restricted to variables that keep their names, an event is the same. -/
theorem renamed_restricted_eq_self {kept : List String} (fixed : ∀ name ∈ kept, rename name = name)
    (event : Event) : (event.restricted kept).renamed rename = event.restricted kept := by
  cases event with
  | fault error => rfl
  | binding bound =>
    simp only [restricted, renamed]
    congr 1
    apply Binding.renamed_eq_self
    intro name isKey
    rw [Binding.keys_restricted] at isKey
    exact fixed name (List.contains_iff_mem.1 (List.mem_filter.1 isKey).2)

/-- Faults have no names to change. -/
theorem bindings_map_renamed (events : List Event) :
    bindings (events.map (renamed rename)) = (bindings events).map (Binding.renamed rename) := by
  rw [bindings, List.filterMap_map, bindings, List.map_filterMap]
  refine List.filterMap_congr fun event _ => ?_
  cases event <;> rfl

end Event

namespace Source

mutual

/-- The source with other variables in all of its bindings and projections. -/
def renamed : Source → Source
  | compatible => compatible
  | incompatible => incompatible
  | single binding => single (binding.renamed rename)
  | table bindings => table (bindings.map (Binding.renamed rename))
  | multiply source times => multiply (renamed source) times
  | union sources => union (renamedAll sources)
  | extend source binding => extend (renamed source) (binding.renamed rename)
  | join left right => join (renamed left) (renamed right)
  | project source kept => project (renamed source) (kept.map rename)
  | failure fault => failure fault
  | unknown => unknown

/-- Sources with other variables. -/
def renamedAll : List Source → List Source
  | [] => []
  | source :: rest => renamed source :: renamedAll rest

end

/-- Sources are renamed one by one. -/
theorem renamedAll_eq_map (sources : List Source) :
    renamedAll rename sources = sources.map (renamed rename) := by
  induction sources with
  | nil => rfl
  | cons source rest ih => rw [renamedAll, ih, List.map_cons]

/-- The operands of a union are renamed. -/
theorem renamed_union (sources : List Source) :
    (union sources).renamed rename = union (sources.map (renamed rename)) := by
  rw [renamed, renamedAll_eq_map]

/-- The operands of a join are renamed. -/
theorem renamed_joinAll (sources : List Source) :
    (joinAll sources).renamed rename = joinAll (sources.map (renamed rename)) := by
  induction sources with
  | nil => rfl
  | cons source rest ih =>
    show join (renamed rename source) ((joinAll rest).renamed rename) = _
    rw [ih]
    rfl

/-- Events that meet in a join meet as before if both operands have new names. -/
theorem joined_renamed (equal : EqualityTest) (left right : Walk Event) :
    ((right.map (Event.renamed rename)).bind fun
      | .binding binding =>
        (left.map (Event.renamed rename)).bind (Event.extended equal binding)
      | .fault error => Walk.one (.fault error)) =
    (right.bind fun
      | .binding binding => left.bind (Event.extended equal binding)
      | .fault error => Walk.one (.fault error)).map (Event.renamed rename) := by
  rw [Walk.bind_map, Walk.map_bind]
  congr 1
  funext event
  cases event with
  | fault error => rfl
  | binding extension =>
    show (left.map (Event.renamed rename)).bind
        (Event.extended equal (extension.renamed rename)) = _
    simp only [Walk.bind_map, Walk.map_bind, Event.extended_renamed]

mutual

/-- A source with new names is walked through as before, but for the names in its bindings. -/
theorem walk_renamed (equal : EqualityTest) : ∀ source : Source,
    (source.renamed rename).walk equal = (source.walk equal).map (Event.renamed rename)
  | compatible => rfl
  | incompatible => rfl
  | single _ => rfl
  | table bindings => by
    simp only [renamed, walk, Walk.map_ofList, List.map_map]
    rfl
  | multiply source times => by
    rw [renamed, walk, walk, Walk.map_copies, walk_renamed equal source]
  | union sources => walkAll_renamed equal sources
  | extend source binding => by
    simp only [renamed, walk, walk_renamed equal source, Walk.bind_map, Walk.map_bind,
      Event.extended_renamed]
  | join left right => by
    rw [renamed, walk, walk, walk_renamed equal left, walk_renamed equal right]
    exact joined_renamed rename equal _ _
  | project source kept => by
    simp only [renamed, walk, walk_renamed equal source, Walk.map_map, Event.restricted_renamed]
  | failure _ => rfl
  | unknown => rfl

/-- Sources with new names are walked through as before, but for the names in their bindings. -/
theorem walkAll_renamed (equal : EqualityTest) : ∀ sources : List Source,
    walkAll equal (renamedAll rename sources) = (walkAll equal sources).map (Event.renamed rename)
  | [] => rfl
  | source :: rest => by
    rw [renamedAll, walkAll, walkAll, Walk.map_append, walk_renamed equal source,
      walkAll_renamed equal rest]

end

end Source

end GraphPattern
