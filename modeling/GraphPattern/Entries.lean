/-!
# Ordered entries

The members of an object and the assignments of a binding: named values in the
order in which their names first appeared. Writing to a name that is present
keeps its place, so names that are distinct stay distinct.
-/

namespace GraphPattern

/-- Named values in order. -/
abbrev Entries (α : Type) := List (String × α)

namespace Entries

variable {α : Type}

/-- The names, in order. -/
def keys (entries : Entries α) : List String := entries.map Prod.fst

/-- The value of a name, if it is present. -/
def get? (entries : Entries α) (key : String) : Option α :=
  match entries with
  | [] => none
  | (name, value) :: rest => if name = key then some value else get? rest key

/-- Whether a name is present. -/
def has (entries : Entries α) (key : String) : Bool := (entries.get? key).isSome

/-- Writes a value: in its place if the name is present, else at the end. -/
def put (entries : Entries α) (key : String) (value : α) : Entries α :=
  match entries with
  | [] => [(key, value)]
  | (name, old) :: rest =>
    if name = key then (name, value) :: rest else (name, old) :: put rest key value

/-- Entries written one after the other: a repeated name keeps its first place and its last
value. -/
def ofPairs (pairs : List (String × α)) : Entries α :=
  pairs.foldl (fun entries pair => entries.put pair.1 pair.2) []

/-- Puts one entry before the first whose name does not come earlier. -/
def insertSorted (key : String) (value : α) : Entries α → Entries α
  | [] => [(key, value)]
  | (name, other) :: rest =>
    if key ≤ name then (key, value) :: (name, other) :: rest
    else (name, other) :: insertSorted key value rest

/-- Entries in the order of their names, code point by code point. -/
def sorted : Entries α → Entries α
  | [] => []
  | (key, value) :: rest => insertSorted key value (sorted rest)

@[simp] theorem keys_nil : keys ([] : Entries α) = [] := rfl

@[simp] theorem keys_cons (key : String) (value : α) (rest : Entries α) :
    keys ((key, value) :: rest) = key :: keys rest := rfl

/-- A name is present exactly when it is among the names. -/
theorem has_iff_mem_keys (entries : Entries α) (key : String) :
    entries.has key = true ↔ key ∈ entries.keys := by
  induction entries with
  | nil => simp [has, get?, keys]
  | cons entry rest ih =>
    obtain ⟨name, value⟩ := entry
    by_cases same : name = key
    · simp [has, get?, keys, same]
    · have other : ¬ key = name := fun equal => same equal.symm
      simpa [has, get?, keys, same, other] using ih

/-- Writing adds the name at the end unless it is present. -/
theorem keys_put (entries : Entries α) (key : String) (value : α) :
    (entries.put key value).keys =
      if key ∈ entries.keys then entries.keys else entries.keys ++ [key] := by
  induction entries with
  | nil => simp [put, keys]
  | cons entry rest ih =>
    obtain ⟨name, old⟩ := entry
    by_cases same : name = key
    · simp [put, same]
    · have other : ¬ key = name := fun equal => same equal.symm
      by_cases present : key ∈ keys rest <;> simp [put, same, other, ih, present]

/-- Writing to a new name adds an entry at the end. -/
theorem put_of_not_mem (entries : Entries α) (key : String) (value : α)
    (absent : key ∉ entries.keys) : entries.put key value = entries ++ [(key, value)] := by
  induction entries with
  | nil => rfl
  | cons entry rest ih =>
    obtain ⟨name, old⟩ := entry
    rw [keys_cons, List.mem_cons, not_or] at absent
    rw [put, if_neg fun same => absent.1 same.symm, ih absent.2, List.cons_append]

/-- Reading after writing gives the written value at its name and the old ones elsewhere. -/
theorem get?_put (entries : Entries α) (key other : String) (value : α) :
    (entries.put key value).get? other =
      if key = other then some value else entries.get? other := by
  induction entries with
  | nil => simp [put, get?]
  | cons entry rest ih =>
    obtain ⟨name, old⟩ := entry
    by_cases same : name = key
    · by_cases found : name = other <;> simp_all [put, get?]
    · by_cases found : name = other
      · have different : ¬ key = other := fun equal => same (found.trans equal.symm)
        rw [put, if_neg same, get?, if_pos found, if_neg different, get?, if_pos found]
      · simp [put, get?, same, found, ih]

/-- Writing keeps distinct names distinct. -/
theorem nodup_keys_put (entries : Entries α) (key : String) (value : α)
    (distinct : entries.keys.Nodup) : (entries.put key value).keys.Nodup := by
  rw [keys_put]
  split
  · exact distinct
  · next absent =>
    rw [List.nodup_append]
    refine ⟨distinct, by simp, fun name present added member => ?_⟩
    rw [List.mem_singleton] at member
    exact fun equal => absent (by rw [← member, ← equal]; exact present)

/-- Sorting only reorders. -/
theorem sorted_perm (entries : Entries α) : List.Perm (sorted entries) entries := by
  have insert : ∀ (key : String) (value : α) (others : Entries α),
      List.Perm (insertSorted key value others) ((key, value) :: others) := by
    intro key value others
    induction others with
    | nil => exact List.Perm.refl _
    | cons entry rest ih =>
      simp only [insertSorted]
      split
      · exact List.Perm.refl _
      · exact (List.Perm.cons _ ih).trans (List.Perm.swap _ _ _)
  induction entries with
  | nil => exact List.Perm.refl _
  | cons entry rest ih => exact (insert _ _ _).trans (List.Perm.cons _ ih)

/-- Entries written from nothing have distinct names. -/
theorem nodup_keys_ofPairs (pairs : List (String × α)) : (ofPairs pairs).keys.Nodup := by
  suffices general : ∀ entries : Entries α, entries.keys.Nodup →
      (pairs.foldl (fun entries pair => entries.put pair.1 pair.2) entries).keys.Nodup by
    exact general [] (by simp)
  induction pairs with
  | nil => exact fun _ distinct => distinct
  | cons pair rest ih =>
    exact fun entries distinct => ih _ (nodup_keys_put entries pair.1 pair.2 distinct)

end Entries

end GraphPattern
