import GraphPattern.Proofs.Equality
import GraphPattern.Value.Hashing
import Mathlib.Data.List.Forall2

/-!
# Fixed forms

What stands in a set for a value must not tell apart what equality does not, nor
the other way round. Equality is first said without its algorithm: numbers by
their magnitude, lists item by item, objects name by name. A fixed form keeps a
number as it is written and an object in the order of its members, so its hash
code is compared by way of the frozen form, which keeps neither.

Main statements: the test of equality decides equality as it is said here; values
are equal exactly if their fixed forms are; and equal values have one hash code,
however scalars, tuples and sets are hashed.
-/

namespace GraphPattern

namespace Entries

variable {α β : Type}

/-- Some entry has a name and passes a test exactly if what is read under the name passes it. -/
theorem any_eq_any_get? {entries : Entries α} (distinct : (keys entries).Nodup) (name : String)
    (test : α → Bool) :
    (entries.any fun entry => name == entry.1 && test entry.2) = (entries.get? name).any test := by
  induction entries with
  | nil => rfl
  | cons entry rest ih =>
    obtain ⟨first, value⟩ := entry
    rw [keys_cons, List.nodup_cons] at distinct
    rw [List.any_cons, get?_cons, ih distinct.2]
    by_cases same : first = name
    · rw [if_pos same, (get?_eq_none_iff rest name).2 (same ▸ distinct.1), ← same]
      simp
    · have other : (name == first) = false := beq_false_of_ne (Ne.symm same)
      rw [if_neg same, other, Bool.false_and, Bool.false_or]

/-- As many entries whose names are all among those of others have the same names, but for the
order. -/
theorem keys_perm_of_subset {entries : Entries α} {others : Entries β}
    (distinct : (keys entries).Nodup) (asMany : entries.length = others.length)
    (within : keys entries ⊆ keys others) : (keys entries).Perm (keys others) := by
  refine (distinct.subperm within).perm_of_length_le ?_
  rw [keys, keys, List.length_map, List.length_map, asMany]

/-- Entries that are related name by name have the same names, but for the order. -/
theorem keys_perm_of_rel_get? {related : α → β → Prop} {entries : Entries α} {others : Entries β}
    (distinct : (keys entries).Nodup) (distinctOthers : (keys others).Nodup)
    (each : ∀ name, Option.Rel related (entries.get? name) (others.get? name)) :
    (keys entries).Perm (keys others) := by
  refine (List.perm_ext_iff_of_nodup distinct distinctOthers).2 fun name => ?_
  have pair := each name
  rw [← has_iff_mem_keys, ← has_iff_mem_keys, has, has]
  generalize entries.get? name = value, others.get? name = other at pair ⊢
  cases pair <;> exact Iff.rfl

/-- As many entries, each with a related one of its name, are related name by name, absent names
included. -/
theorem rel_get?_iff {related : α → β → Prop} {entries : Entries α} {others : Entries β}
    (distinct : (keys entries).Nodup) (distinctOthers : (keys others).Nodup) :
    (entries.length = others.length ∧
        ∀ entry ∈ entries, ∃ other, others.get? entry.1 = some other ∧ related entry.2 other) ↔
      ∀ name, Option.Rel related (entries.get? name) (others.get? name) := by
  constructor
  · rintro ⟨asMany, each⟩ name
    cases read : entries.get? name with
    | none =>
      have within : keys entries ⊆ keys others := by
        intro key member
        obtain ⟨entry, isEntry, rfl⟩ := List.mem_map.1 member
        obtain ⟨other, readOther, _⟩ := each entry isEntry
        exact List.mem_map_of_mem (mem_of_get?_eq_some readOther)
      have absent := (get?_eq_none_iff entries name).1 read
      rw [(keys_perm_of_subset distinct asMany within).mem_iff] at absent
      rw [(get?_eq_none_iff others name).2 absent]
      exact .none
    | some value =>
      obtain ⟨other, readOther, pair⟩ := each _ (mem_of_get?_eq_some read)
      rw [readOther]
      exact .some pair
  · intro each
    have sameKeys := (keys_perm_of_rel_get? distinct distinctOthers each).length_eq
    rw [keys, keys, List.length_map, List.length_map] at sameKeys
    refine ⟨sameKeys, fun entry member => ?_⟩
    have pair := each entry.1
    rw [get?_of_mem distinct member] at pair
    cases read : others.get? entry.1 with
    | none =>
      rw [read] at pair
      cases pair
    | some other =>
      rw [read] at pair
      cases pair with
      | some pair => exact ⟨other, rfl, pair⟩

end Entries

namespace Value

/-- Equality of values, said without an algorithm. -/
inductive Equals : Value → Value → Prop where
  /-- The absent value equals itself. -/
  | null : Equals null null
  /-- A text equals itself. -/
  | text (chars : String) : Equals (text chars) (text chars)
  /-- Numbers and truth values are equal if they have the same magnitude. -/
  | number {left right : Value} {magnitude : Magnitude}
      (stands : left.magnitude? = some magnitude)
      (standsRight : right.magnitude? = some magnitude) : Equals left right
  /-- Lists are equal if they have equal items place by place. -/
  | list {items others : List Value} (each : List.Forall₂ Equals items others) :
      Equals (list items) (list others)
  /-- Objects are equal if every name has equal values in both or stands in neither. -/
  | object {members others : Entries Value}
      (each : ∀ name, Option.Rel Equals (members.get? name) (others.get? name)) :
      Equals (object members) (object others)

section Scalars

variable {left right : Value} {magnitude : Magnitude}

/-- A number is tested equal to what has its magnitude. -/
theorem equal_iff_of_magnitude? (stands : left.magnitude? = some magnitude) :
    left.equal right = true ↔ right.magnitude? = some magnitude := by
  cases left with
  | bool _ | int _ | double _ =>
    cases Option.some.inj stands
    cases right with
    | bool _ | int _ | double _ => exact beq_iff_eq.trans (eq_comm.trans Option.some_inj.symm)
    | _ => simp [equal, magnitude?]
  | _ => cases stands

/-- A number equals what has its magnitude. -/
theorem equals_iff_of_magnitude? (stands : left.magnitude? = some magnitude) :
    Equals left right ↔ right.magnitude? = some magnitude := by
  constructor
  · intro equals
    cases equals with
    | number standsLeft standsRight => rw [standsRight, ← standsLeft, stands]
    | _ => cases stands
  · exact fun standsRight => .number stands standsRight

end Scalars

mutual

/-- The test of well-formed values decides whether they are equal. -/
theorem equal_iff_equals : ∀ left right : Value, left.WellFormed → right.WellFormed →
    (left.equal right = true ↔ Equals left right)
  | null, right, _, _ => by
    constructor
    · cases right <;> simp [equal, magnitude?, Equals.null]
    · intro equals
      cases equals with
      | null => rfl
      | number stands _ => cases stands
  | text chars, right, _, _ => by
    constructor
    · cases right with
      | text others =>
        intro same
        rw [eq_of_beq same]
        exact .text others
      | _ => simp [equal, magnitude?]
    · intro equals
      cases equals with
      | text => exact beq_self_eq_true chars
      | number stands _ => cases stands
  | bool _, right, _, _ => (equal_iff_of_magnitude? rfl).trans (equals_iff_of_magnitude? rfl).symm
  | int _, right, _, _ => (equal_iff_of_magnitude? rfl).trans (equals_iff_of_magnitude? rfl).symm
  | double _, right, _, _ => (equal_iff_of_magnitude? rfl).trans (equals_iff_of_magnitude? rfl).symm
  | list items, right, wellFormed, wellFormedRight => by
    constructor
    · cases right with
      | list others =>
        intro same
        exact .list ((equalItems_iff_equals items others wellFormed wellFormedRight).1 same)
      | _ => simp [equal, magnitude?]
    · intro equals
      cases equals with
      | list each => exact (equalItems_iff_equals items _ wellFormed wellFormedRight).2 each
      | number stands _ => cases stands
  | object members, right, wellFormed, wellFormedRight => by
    have decides : ∀ others : Entries Value, (object others).WellFormed →
        ((object members).equal (object others) = true ↔
          ∀ name, Option.Rel Equals (Entries.get? members name) (others.get? name)) := by
      intro others wellFormedOthers
      rw [equal, Bool.and_eq_true, beq_iff_eq,
        equalMembers_iff_equals members others wellFormed.2 wellFormedOthers.2]
      exact Entries.rel_get?_iff wellFormed.1 wellFormedOthers.1
    constructor
    · cases right with
      | object others => exact fun same => .object ((decides others wellFormedRight).1 same)
      | _ => simp [equal, magnitude?]
    · intro equals
      cases equals with
      | object each => exact (decides _ wellFormedRight).2 each
      | number stands _ => cases stands

/-- The test of lists decides whether their items are equal place by place. -/
theorem equalItems_iff_equals : ∀ items others : List Value, WellFormedItems items →
    WellFormedItems others → (equalItems items others = true ↔ List.Forall₂ Equals items others)
  | [], others, _, _ => by cases others <;> simp [equalItems]
  | item :: rest, [], _, _ => by simp [equalItems]
  | item :: rest, other :: others, wellFormed, wellFormedOthers => by
    rw [equalItems, Bool.and_eq_true, List.forall₂_cons,
      equal_iff_equals item other wellFormed.1 wellFormedOthers.1,
      equalItems_iff_equals rest others wellFormed.2 wellFormedOthers.2]

/-- The test of members decides whether each has an equal one of its name. -/
theorem equalMembers_iff_equals : ∀ members others : Entries Value, WellFormedMembers members →
    WellFormedMembers others → (equalMembers members others = true ↔
      ∀ entry ∈ members, ∃ other, others.get? entry.1 = some other ∧ Equals entry.2 other)
  | [], _, _, _ => by simp [equalMembers]
  | (name, value) :: rest, others, wellFormed, wellFormedOthers => by
    rw [equalMembers, Bool.and_eq_true, List.forall_mem_cons,
      equalMembers_iff_equals rest others wellFormed.2 wellFormedOthers]
    refine and_congr_left fun _ => ?_
    cases read : Entries.get? others name with
    | none => simp
    | some other =>
      have decides := equal_iff_equals value other wellFormed.1
        (wellFormed_of_get? wellFormedOthers read)
      simpa using decides

end

/-- Fixing members fixes the value of each. -/
theorem fixedMembers_eq_map (members : Entries Value) :
    fixedMembers members = members.map fun entry => (entry.1, entry.2.fixed) := by
  induction members with
  | nil => rfl
  | cons entry rest ih => rw [fixedMembers, ih, List.map_cons]

mutual

/-- The fixed forms of values are equal exactly if the values are. The names of an object that
is compared with must not repeat. -/
theorem equal_fixed : ∀ left right : Value, right.WellFormed →
    left.fixed.equal right.fixed = left.equal right
  | list items, right, wellFormed => by
    cases right with
    | list others => exact equalItems_fixed items others wellFormed
    | _ => rfl
  | object members, right, wellFormed => by
    cases right with
    | object others =>
      rw [fixed, fixed, Fixed.equal, within_fixed members others wellFormed, equal,
        fixedMembers_eq_map, fixedMembers_eq_map, List.length_map, List.length_map]
    | _ => rfl
  | null, right, _ => by cases right <;> rfl
  | text _, right, _ => by cases right <;> rfl
  | bool _, right, _ => by cases right <;> rfl
  | int _, right, _ => by cases right <;> rfl
  | double _, right, _ => by cases right <;> rfl

/-- The fixed forms of lists are equal exactly if the lists are. -/
theorem equalItems_fixed : ∀ items others : List Value, WellFormedItems others →
    Fixed.equalItems (fixedItems items) (fixedItems others) = equalItems items others
  | [], others, _ => by cases others <;> rfl
  | item :: rest, [], _ => rfl
  | item :: rest, other :: others, wellFormed => by
    rw [fixedItems, fixedItems, Fixed.equalItems, equal_fixed item other wellFormed.1,
      equalItems_fixed rest others wellFormed.2, equalItems]

/-- Each fixed member is among the fixed others exactly if each member has an equal one of its
name. -/
theorem within_fixed : ∀ members others : Entries Value, (object others).WellFormed →
    Fixed.within (fixedMembers members) (fixedMembers others) = equalMembers members others
  | [], _, _ => rfl
  | (name, value) :: rest, others, wellFormed => by
    -- Names do not repeat, so at most the pair that is read under the name can be the one sought.
    have found : ((fixedMembers others).any fun other =>
        name == other.1 && value.fixed.equal other.2) =
          (Entries.get? others name).any fun other => value.fixed.equal other.fixed := by
      rw [fixedMembers_eq_map, List.any_map]
      exact Entries.any_eq_any_get? wellFormed.1 name fun other => value.fixed.equal other.fixed
    rw [fixedMembers, Fixed.within, found, within_fixed rest others wellFormed, equalMembers]
    congr 1
    cases read : Entries.get? others name with
    | none => rfl
    | some other => exact equal_fixed value other (wellFormed_of_get? wellFormed.2 read)

end

end Value

namespace Frozen

mutual

/-- The hash code that a value has by its frozen form. -/
def hash (hashing : Hashing) : Frozen → UInt64
  | null => hashing.null
  | number magnitude => hashing.number magnitude
  | text chars => hashing.text chars
  | list items => hashing.tuple (hashItems hashing items)
  | object members => hashing.set (hashMembers hashing members)

/-- The hash codes of frozen items, in their order. -/
def hashItems (hashing : Hashing) : List Frozen → List UInt64
  | [] => []
  | item :: rest => item.hash hashing :: hashItems hashing rest

/-- The hash codes of frozen members with their names. -/
def hashMembers (hashing : Hashing) : List (String × Frozen) → List UInt64
  | [] => []
  | (name, value) :: rest =>
    hashing.tuple [hashing.text name, value.hash hashing] :: hashMembers hashing rest

end

/-- Hashing members hashes each. -/
theorem hashMembers_eq_map (hashing : Hashing) (members : Entries Frozen) :
    hashMembers hashing members =
      members.map fun entry => hashing.tuple [hashing.text entry.1, entry.2.hash hashing] := by
  induction members with
  | nil => rfl
  | cons entry rest ih => rw [hashMembers, ih, List.map_cons]

/-- The order of members does not matter for the code of the set that they make. -/
theorem set_hashMembers_of_perm (hashing : Hashing) {members others : Entries Frozen}
    (permuted : members.Perm others) :
    hashing.set (hashMembers hashing members) = hashing.set (hashMembers hashing others) := by
  rw [hashMembers_eq_map, hashMembers_eq_map]
  exact hashing.set_perm (permuted.map _)

end Frozen

namespace Value

mutual

/-- The hash code of a value shows no more of it than its frozen form. -/
theorem hash_fixed (hashing : Hashing) : ∀ value : Value,
    value.fixed.hash hashing = value.frozen.hash hashing
  | null | text _ | bool _ | int _ | double _ => rfl
  | list items => by
    rw [fixed, Fixed.hash, frozen, Frozen.hash, hashItems_fixedItems hashing items]
  | object members => by
    rw [fixed, Fixed.hash, frozen, Frozen.hash, hashPairs_fixedMembers hashing members]
    -- What is left is the order: as the members stand on one side, by their names on the other.
    exact Frozen.set_hashMembers_of_perm hashing (Entries.sorted_perm _).symm

/-- The hash codes of fixed items are those of the frozen items. -/
theorem hashItems_fixedItems (hashing : Hashing) : ∀ items : List Value,
    Fixed.hashItems hashing (fixedItems items) = Frozen.hashItems hashing (frozenItems items)
  | [] => rfl
  | item :: rest => by
    rw [fixedItems, Fixed.hashItems, frozenItems, Frozen.hashItems, hash_fixed hashing item,
      hashItems_fixedItems hashing rest]

/-- The hash codes of fixed members are those of the frozen members. -/
theorem hashPairs_fixedMembers (hashing : Hashing) : ∀ members : List (String × Value),
    Fixed.hashPairs hashing (fixedMembers members) =
      Frozen.hashMembers hashing (frozenMembers members)
  | [] => rfl
  | (name, value) :: rest => by
    rw [fixedMembers, Fixed.hashPairs, frozenMembers, Frozen.hashMembers, hash_fixed hashing value,
      hashPairs_fixedMembers hashing rest]

end

/-- Equal values have one hash code. -/
theorem hash_eq_of_equal (hashing : Hashing) {left right : Value} (wellFormed : left.WellFormed)
    (wellFormedRight : right.WellFormed) (same : left.equal right = true) :
    left.hash hashing = right.hash hashing := by
  rw [hash, hash, hash_fixed, hash_fixed,
    (equal_iff_frozen_eq left right wellFormed wellFormedRight).1 same]

end Value

end GraphPattern
