import GraphPattern.Binding

/-!
# Merging bindings

A binding is known by two things: which variables it binds, in which order, and
what each of them is given. This module states what reading, merging and
restricting do to both, so that later proofs never look at the entries of a
binding. Merging a whole list of bindings keeps the first value of every
variable, and the variables stand in the order of their first appearance.

Main statement: merging is an associative and idempotent insertion whose identity
is the empty binding, and restricting a merge merges what is left of both.
-/

namespace GraphPattern

/-- Names that do not repeat are all first appearances. -/
theorem eraseDups_of_nodup {names : List String} (distinct : names.Nodup) :
    names.eraseDups = names := by
  induction names with
  | nil => rfl
  | cons name rest ih =>
    rw [List.nodup_cons] at distinct
    have kept : rest.filter (fun other => !other == name) = rest := by
      rw [List.filter_eq_self]
      intro other member
      have different : other ≠ name := fun same => distinct.1 (same ▸ member)
      simp [different]
    rw [List.eraseDups_cons, kept, ih distinct.2]

/-- The first appearances among some of the names are those names among the first
appearances. -/
theorem eraseDups_filter (keep : String → Bool) (names : List String) :
    (names.filter keep).eraseDups = names.eraseDups.filter keep := by
  match names with
  | [] => rfl
  | name :: rest =>
    have smaller := eraseDups_filter keep (rest.filter fun other => !other == name)
    rw [List.filter_filter] at smaller
    by_cases kept : keep name = true
    · rw [List.filter_cons_of_pos kept, List.eraseDups_cons, List.eraseDups_cons,
        List.filter_cons_of_pos kept, ← smaller, List.filter_filter]
      simp only [Bool.and_comm]
    · rw [List.filter_cons_of_neg kept, List.eraseDups_cons, List.filter_cons_of_neg kept,
        ← smaller]
      congr 1
      refine List.filter_congr fun other _ => ?_
      by_cases same : other = name
      · subst same
        simp [kept]
      · simp [same]
termination_by names.length
decreasing_by exact Nat.lt_succ_of_le (List.length_filter_le _ _)

namespace Entries

variable {α : Type}

@[simp] theorem get?_nil (key : String) : get? ([] : Entries α) key = none := rfl

/-- Reading finds the first entry with a name. -/
theorem get?_cons (name key : String) (value : α) (rest : Entries α) :
    get? ((name, value) :: rest) key = if name = key then some value else get? rest key := rfl

/-- Changing all values changes what is read. -/
theorem get?_map_values {β : Type} (change : String → α → β) (entries : Entries α) (key : String) :
    get? (entries.map fun entry => (entry.1, change entry.1 entry.2)) key =
      (entries.get? key).map (change key) := by
  induction entries with
  | nil => rfl
  | cons entry rest ih =>
    obtain ⟨name, value⟩ := entry
    rw [List.map_cons, get?_cons, get?_cons, ih]
    by_cases same : name = key
    · rw [if_pos same, if_pos same, same]
      rfl
    · rw [if_neg same, if_neg same]

/-- What stands in front is read first. -/
theorem get?_append (front back : Entries α) (key : String) :
    get? (front ++ back) key = (get? front key).or (get? back key) := by
  induction front with
  | nil => rfl
  | cons entry rest ih =>
    obtain ⟨name, value⟩ := entry
    rw [List.cons_append, get?_cons, get?_cons, ih]
    by_cases same : name = key
    · rw [if_pos same, if_pos same, Option.some_or]
    · rw [if_neg same, if_neg same]

/-- Leaving out names leaves the others as they were. -/
theorem get?_filter (entries : Entries α) (keep : String → Bool) (key : String) :
    get? (entries.filter fun entry => keep entry.1) key =
      if keep key then get? entries key else none := by
  induction entries with
  | nil => simp
  | cons entry rest ih =>
    obtain ⟨name, value⟩ := entry
    rw [List.filter_cons, get?_cons]
    by_cases same : name = key
    · subst same
      by_cases kept : keep name = true
      · rw [if_pos kept, if_pos kept, get?_cons, if_pos rfl, if_pos rfl]
      · rw [if_neg kept, ih, if_neg kept, if_neg kept]
    · by_cases kept : keep name = true
      · rw [if_pos kept, get?_cons, if_neg same, if_neg same, ih]
      · rw [if_neg kept, if_neg same, ih]

/-- Distinct entries that are written from nothing stand as they were written. -/
theorem ofPairs_of_nodup {pairs : Entries α} (distinct : (keys pairs).Nodup) :
    ofPairs pairs = pairs := by
  suffices general : ∀ written : Entries α, (keys (written ++ pairs)).Nodup →
      pairs.foldl (fun entries pair => entries.put pair.1 pair.2) written = written ++ pairs by
    exact general [] distinct
  clear distinct
  induction pairs with
  | nil => exact fun written _ => (List.append_nil written).symm
  | cons pair rest ih =>
    intro written distinct
    have absent : pair.1 ∉ keys written := by
      rw [keys, List.map_append, List.nodup_append] at distinct
      exact fun present => distinct.2.2 _ present _ List.mem_cons_self rfl
    rw [List.append_cons] at distinct
    rw [List.foldl_cons, put_of_not_mem _ _ _ absent, ih _ distinct, ← List.append_cons]

/-- Writes a value unless the name is present. -/
def putNew (entries : Entries α) (key : String) (value : α) : Entries α :=
  if entries.has key then entries else entries.put key value

/-- A name is present in front or behind. -/
theorem has_append (front back : Entries α) (key : String) :
    has (front ++ back) key = (has front key || has back key) := by
  rw [has, get?_append, Option.isSome_or]
  rfl

/-- Writing the new ones among distinct entries one after the other adds them at the end. -/
theorem foldl_putNew (entries : Entries α) {others : Entries α} (distinct : (keys others).Nodup) :
    others.foldl (fun written entry => written.putNew entry.1 entry.2) entries =
      entries ++ others.filter fun entry => !entries.has entry.1 := by
  induction others generalizing entries with
  | nil => exact (List.append_nil entries).symm
  | cons entry rest ih =>
    rw [keys, List.map_cons, List.nodup_cons] at distinct
    rw [List.foldl_cons, ih _ distinct.2, putNew]
    by_cases present : entries.has entry.1 = true
    · rw [if_pos present, List.filter_cons_of_neg (by rw [present]; exact Bool.false_ne_true)]
    · have absent : entry.1 ∉ keys entries := fun member =>
        present ((has_iff_mem_keys entries entry.1).2 member)
      -- What has just been written does not hide any of the entries that follow.
      have later : (rest.filter fun other => !has (entries ++ [entry]) other.1) =
          rest.filter fun other => !entries.has other.1 := by
        refine List.filter_congr fun other member => ?_
        have different : entry.1 ≠ other.1 := fun same =>
          distinct.1 (same ▸ List.mem_map_of_mem member)
        rw [has_append, show has [entry] other.1 = false by simp [has, get?, different],
          Bool.or_false]
      rw [if_neg present, put_of_not_mem _ _ _ absent, later,
        List.filter_cons_of_pos (by simp [present]), ← List.append_cons]

/-- A name is absent exactly when reading it gives nothing. -/
theorem get?_eq_none_iff (entries : Entries α) (key : String) :
    get? entries key = none ↔ key ∉ keys entries := by
  rw [← has_iff_mem_keys, has]
  cases get? entries key <;> simp

/-- What is read is one of the entries. -/
theorem mem_of_get?_eq_some {entries : Entries α} {key : String} {value : α}
    (found : get? entries key = some value) : (key, value) ∈ entries := by
  induction entries with
  | nil => cases found
  | cons entry rest ih =>
    obtain ⟨name, other⟩ := entry
    rw [get?_cons] at found
    by_cases same : name = key
    · rw [if_pos same, Option.some.injEq] at found
      rw [same, found]
      exact List.mem_cons_self
    · rw [if_neg same] at found
      exact List.mem_cons_of_mem _ (ih found)

/-- The value of an entry is read under its name, provided that no name repeats. -/
theorem get?_of_mem {entries : Entries α} {key : String} {value : α}
    (distinct : (keys entries).Nodup) (member : (key, value) ∈ entries) :
    get? entries key = some value := by
  induction entries with
  | nil => cases member
  | cons entry rest ih =>
    obtain ⟨name, other⟩ := entry
    rw [keys_cons, List.nodup_cons] at distinct
    rw [get?_cons]
    rcases List.mem_cons.1 member with first | later
    · cases first
      rw [if_pos rfl]
    · have present : key ∈ keys rest := List.mem_map.2 ⟨(key, value), later, rfl⟩
      have other : name ≠ key := fun same => distinct.1 (same ▸ present)
      rw [if_neg other]
      exact ih distinct.2 later

/-- Entries without repeated names are known by their names and by what is read under them. -/
theorem eq_of_keys_of_get? {entries others : Entries α} (distinct : (keys entries).Nodup)
    (sameKeys : keys entries = keys others)
    (sameValues : ∀ key, get? entries key = get? others key) : entries = others := by
  induction entries generalizing others with
  | nil =>
    cases others with
    | nil => rfl
    | cons entry rest => cases sameKeys
  | cons entry rest ih =>
    obtain ⟨name, value⟩ := entry
    cases others with
    | nil => cases sameKeys
    | cons entry others =>
      obtain ⟨other, otherValue⟩ := entry
      rw [keys_cons, keys_cons, List.cons.injEq] at sameKeys
      obtain ⟨rfl, sameRest⟩ := sameKeys
      have head := sameValues name
      rw [get?_cons, get?_cons, if_pos rfl, if_pos rfl, Option.some.injEq] at head
      rw [keys_cons, List.nodup_cons] at distinct
      have tail : rest = others := by
        refine ih distinct.2 sameRest fun key => ?_
        by_cases same : name = key
        · subst same
          rw [(get?_eq_none_iff rest name).2 distinct.1,
            (get?_eq_none_iff others name).2 (sameRest ▸ distinct.1)]
        · have values := sameValues key
          rwa [get?_cons, get?_cons, if_neg same, if_neg same] at values
      rw [head, tail]

end Entries

namespace Binding

@[simp] theorem keys_empty : empty.keys = [] := rfl

@[simp] theorem get?_empty (name : String) : empty.get? name = none := rfl

@[simp] theorem get?_single (name other : String) (value : Value) :
    (single name value).get? other = if name = other then some value else none := rfl

/-- No variable is bound twice. -/
theorem nodup_keys (binding : Binding) : binding.keys.Nodup := binding.distinct

/-- A variable is bound exactly when it is among the variables. -/
theorem has_iff_mem_keys (binding : Binding) (name : String) :
    binding.has name = true ↔ name ∈ binding.keys :=
  Entries.has_iff_mem_keys binding.entries name

/-- A variable is bound exactly when it has a value. -/
theorem has_eq_isSome (binding : Binding) (name : String) :
    binding.has name = (binding.get? name).isSome := rfl

/-- A variable has no value exactly when it is not among the variables. -/
theorem get?_eq_none_iff (binding : Binding) (name : String) :
    binding.get? name = none ↔ name ∉ binding.keys :=
  Entries.get?_eq_none_iff binding.entries name

/-- Bindings of the same variables, in the same order, to the same values are the same. -/
theorem eq_of_keys_of_get? {binding other : Binding} (sameKeys : binding.keys = other.keys)
    (sameValues : ∀ name, binding.get? name = other.get? name) : binding = other :=
  Binding.ext (Entries.eq_of_keys_of_get? binding.distinct sameKeys sameValues)

/-- A merged binding gives a variable the value of the first, or else that of the second. -/
theorem get?_merged (binding other : Binding) (name : String) :
    (binding.merged other).get? name = (binding.get? name).or (other.get? name) := by
  unfold get? merged
  rw [Entries.get?_append, Entries.get?_filter other.entries fun key => !binding.has key,
    has_eq_isSome, get?]
  cases Entries.get? binding.entries name <;> rfl

/-- A restricted binding gives the kept variables the values that they had. -/
theorem get?_restricted (binding : Binding) (kept : List String) (name : String) :
    (binding.restricted kept).get? name =
      if kept.contains name then binding.get? name else none :=
  Entries.get?_filter binding.entries kept.contains name

/-- Merging the empty binding with another gives the other. -/
theorem empty_merged (binding : Binding) : empty.merged binding = binding := by
  refine eq_of_keys_of_get? ?_ fun name => ?_
  · rw [keys_merged, keys_empty, List.nil_append, List.filter_eq_self]
    intro name _
    rfl
  · rw [get?_merged, get?_empty, Option.none_or]

/-- Merging a binding with the empty one changes nothing. -/
theorem merged_empty (binding : Binding) : binding.merged empty = binding := by
  refine eq_of_keys_of_get? ?_ fun name => ?_
  · rw [keys_merged, keys_empty, List.filter_nil, List.append_nil]
  · rw [get?_merged, get?_empty, Option.or_none]

/-- Merging a binding with itself changes nothing. -/
theorem merged_self (binding : Binding) : binding.merged binding = binding := by
  refine eq_of_keys_of_get? ?_ fun name => ?_
  · rw [keys_merged, List.append_right_eq_self, List.filter_eq_nil_iff]
    intro name member
    rw [(has_iff_mem_keys binding name).2 member]
    exact Bool.false_ne_true
  · rw [get?_merged, Option.or_self]

/-- How merges are grouped does not matter. -/
theorem merged_assoc (first second third : Binding) :
    (first.merged second).merged third = first.merged (second.merged third) := by
  refine eq_of_keys_of_get? ?_ fun name => ?_
  · simp only [keys_merged, List.filter_append, List.append_assoc, List.filter_filter,
      has_eq_isSome, get?_merged, Option.isSome_or, Bool.not_or]
  · simp only [get?_merged, Option.or_assoc]

/-- Restricting a merge merges what is left of both. -/
theorem restricted_merged (binding other : Binding) (kept : List String) :
    (binding.merged other).restricted kept =
      (binding.restricted kept).merged (other.restricted kept) := by
  refine eq_of_keys_of_get? ?_ fun name => ?_
  · rw [keys_restricted, keys_merged, keys_merged, List.filter_append, keys_restricted,
      keys_restricted, List.filter_filter, List.filter_filter]
    congr 1
    refine List.filter_congr fun name _ => ?_
    rw [has_eq_isSome, has_eq_isSome, get?_restricted]
    by_cases isKept : kept.contains name = true
    · rw [if_pos isKept, Bool.and_comm]
    · rw [Bool.not_eq_true] at isKept
      rw [isKept, Bool.false_and, Bool.and_false]
  · rw [get?_restricted, get?_merged, get?_merged, get?_restricted, get?_restricted]
    by_cases isKept : kept.contains name = true
    · simp only [if_pos isKept]
    · simp only [if_neg isKept, Option.none_or]

/-- Restricting to some of the variables that are left leaves those. -/
theorem restricted_restricted (binding : Binding) {wanted kept : List String}
    (subset : ∀ name ∈ wanted, name ∈ kept) :
    (binding.restricted kept).restricted wanted = binding.restricted wanted := by
  ext1
  simp only [restricted, List.filter_filter]
  refine List.filter_congr fun entry _ => ?_
  by_cases isWanted : entry.1 ∈ wanted
  · simp [isWanted, subset entry.1 isWanted]
  · simp [isWanted]

/-- Restricting twice leaves what is kept both times. -/
theorem entries_restricted_restricted (binding : Binding) (kept wanted : List String) :
    ((binding.restricted kept).restricted wanted).entries =
      binding.entries.filter fun entry => kept.contains entry.1 && wanted.contains entry.1 := by
  simp only [restricted, List.filter_filter, Bool.and_comm]

/-- Merging writes the entries of the other binding one after the other, each unless its variable
is bound. -/
theorem entries_merged (binding other : Binding) :
    (binding.merged other).entries =
      other.entries.foldl (fun written entry => written.putNew entry.1 entry.2) binding.entries :=
  (Entries.foldl_putNew binding.entries other.distinct).symm

/-- Restricting writes the kept entries one after the other. -/
theorem restricted_eq_ofPairs (binding : Binding) (kept : List String) :
    binding.restricted kept =
      ofPairs (binding.entries.filter fun entry => kept.contains entry.1) :=
  Binding.ext (Entries.ofPairs_of_nodup (binding.restricted kept).distinct).symm

/-- Bindings with their order are a monoid of idempotents on which restriction acts. Whatever is
written into a binding, merged or restricted, no variable is bound twice. Merging is the insertion
of the other entries in their order, each unless its variable is bound; it is associative, the empty
binding is its identity on both sides, and merging a binding with itself changes nothing.
Restricting writes the entries of the kept variables in their order; restricting twice leaves the
entries of the variables that are kept both times, in the order in which they stood, and restricting
a merge merges what is left of both. All equations are between ordered entries. -/
theorem merging_laws (first second third : Binding) (kept wanted : List String) :
    (∀ pairs, (ofPairs pairs).keys.Nodup) ∧
    (first.merged second).keys.Nodup ∧
    (first.restricted kept).keys.Nodup ∧
    (first.merged second).entries =
      second.entries.foldl (fun written entry => written.putNew entry.1 entry.2) first.entries ∧
    (first.merged second).merged third = first.merged (second.merged third) ∧
    empty.merged first = first ∧
    first.merged empty = first ∧
    first.merged first = first ∧
    first.restricted kept =
      ofPairs (first.entries.filter fun entry => kept.contains entry.1) ∧
    ((first.restricted kept).restricted wanted).entries =
      (first.entries.filter fun entry => kept.contains entry.1 && wanted.contains entry.1) ∧
    (first.merged second).restricted kept =
      (first.restricted kept).merged (second.restricted kept) :=
  ⟨fun pairs => (ofPairs pairs).nodup_keys, nodup_keys _, nodup_keys _, entries_merged first second,
    merged_assoc first second third, empty_merged first, merged_empty first, merged_self first,
    restricted_eq_ofPairs first kept, entries_restricted_restricted first kept wanted,
    restricted_merged first second kept⟩

/-- Whether a pair of values is compared: both are given to one variable, the first by the
extension. -/
theorem mem_shared_iff (binding extension : Binding) (first second : Value) :
    (first, second) ∈ binding.shared extension ↔
      ∃ name, extension.get? name = some first ∧ binding.get? name = some second := by
  unfold shared
  rw [List.mem_filterMap]
  constructor
  · rintro ⟨⟨name, value⟩, member, mapped⟩
    obtain ⟨bound, found, pair⟩ := Option.map_eq_some_iff.1 mapped
    cases pair
    exact ⟨name, Entries.get?_of_mem extension.distinct member, found⟩
  · rintro ⟨name, given, bound⟩
    refine ⟨(name, first), Entries.mem_of_get?_eq_some given, ?_⟩
    show (binding.get? name).map (fun bound => (first, bound)) = some (first, second)
    rw [bound, Option.map_some]

/-- The merge of bindings in order; the first value of a variable stays. -/
def mergeAll (bindings : List Binding) : Binding := bindings.foldr merged empty

@[simp] theorem mergeAll_nil : mergeAll [] = empty := rfl

@[simp] theorem mergeAll_cons (binding : Binding) (rest : List Binding) :
    mergeAll (binding :: rest) = binding.merged (mergeAll rest) := rfl

/-- Merging two lists of bindings one behind the other merges what either gives. -/
theorem mergeAll_append (front back : List Binding) :
    mergeAll (front ++ back) = (mergeAll front).merged (mergeAll back) := by
  induction front with
  | nil => rw [List.nil_append, mergeAll_nil, empty_merged]
  | cons binding rest ih => rw [List.cons_append, mergeAll_cons, mergeAll_cons, ih, merged_assoc]

/-- A variable has the value that the first of the merged bindings gives it. -/
theorem get?_mergeAll (bindings : List Binding) (name : String) :
    (mergeAll bindings).get? name = bindings.findSome? fun binding => binding.get? name := by
  induction bindings with
  | nil => rfl
  | cons binding rest ih =>
    rw [mergeAll_cons, get?_merged, ih, List.findSome?_cons]
    cases binding.get? name <;> rfl

/-- A merge binds first appearances if the merged bindings do. -/
theorem keys_merged_eq_eraseDups {binding other : Binding} {names others : List String}
    (first : binding.keys = names.eraseDups) (second : other.keys = others.eraseDups) :
    (binding.merged other).keys = (names ++ others).eraseDups := by
  have fresh : (fun name => !binding.has name) = fun name => !names.elem name := by
    funext name
    rw [Bool.eq_iff_iff, Bool.not_eq_true', Bool.not_eq_true', ← Bool.not_eq_true,
      has_iff_mem_keys, first, List.mem_eraseDups, ← Bool.not_eq_true, List.elem_iff]
  rw [keys_merged, first, second, fresh, List.eraseDups_append, List.removeAll, eraseDups_filter]

/-- The variables of a merge stand in the order in which they first appear. -/
theorem keys_mergeAll (bindings : List Binding) :
    (mergeAll bindings).keys = (bindings.flatMap keys).eraseDups := by
  induction bindings with
  | nil => rfl
  | cons binding rest ih =>
    rw [mergeAll_cons, List.flatMap_cons]
    exact keys_merged_eq_eraseDups (eraseDups_of_nodup binding.nodup_keys).symm ih

/-- The variables of a merge are those of the merged bindings. -/
theorem mem_keys_mergeAll_iff (tuple : List Binding) (name : String) :
    name ∈ (mergeAll tuple).keys ↔ ∃ binding ∈ tuple, name ∈ binding.keys := by
  rw [keys_mergeAll, List.mem_eraseDups, List.mem_flatMap]

end Binding

end GraphPattern
