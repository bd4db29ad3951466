import GraphPattern.Proofs.Merging
import GraphPattern.Value.Equality
import Mathlib.Data.List.Nodup
import Mathlib.Data.List.Perm.Subperm
import Mathlib.Data.String.Basic

/-!
# Equality and frozen forms

The frozen form of a value is what a comparison can see of it. Members are put
in the order of their names, so the forms of two objects are one and the same
exactly if their members are, in whatever order.

Main statement: values in which no object repeats a name are equal exactly if
their frozen forms are the same. So equality of such values is an equivalence.
-/

namespace GraphPattern

namespace Entries

variable {α : Type}

/-- The entries stand in the order of their names. -/
def Ascending (entries : Entries α) : Prop :=
  entries.Pairwise fun earlier later => earlier.1 ≤ later.1

/-- What is put among entries is found there, and nothing else is new. -/
theorem mem_insertSorted_iff (key : String) (value : α) (entries : Entries α)
    (entry : String × α) :
    entry ∈ insertSorted key value entries ↔ entry = (key, value) ∨ entry ∈ entries := by
  induction entries with
  | nil => simp [insertSorted]
  | cons head rest ih =>
    obtain ⟨name, other⟩ := head
    by_cases first : key ≤ name
    · rw [insertSorted, if_pos first, List.mem_cons]
    · rw [insertSorted, if_neg first, List.mem_cons, List.mem_cons, ih]
      exact or_left_comm

/-- Entries in order stay so when one more is put among them. -/
theorem Ascending.insertSorted {entries : Entries α} (ascending : entries.Ascending)
    (key : String) (value : α) : (insertSorted key value entries).Ascending := by
  induction entries with
  | nil => exact List.pairwise_singleton _ _
  | cons head rest ih =>
    obtain ⟨name, other⟩ := head
    obtain ⟨before, ascendingRest⟩ := List.pairwise_cons.1 ascending
    by_cases first : key ≤ name
    · rw [Entries.insertSorted, if_pos first]
      refine List.pairwise_cons.2 ⟨fun entry member => ?_, ascending⟩
      rcases List.mem_cons.1 member with rfl | later
      · exact first
      · exact le_trans first (before entry later)
    · rw [Entries.insertSorted, if_neg first]
      refine List.pairwise_cons.2 ⟨fun entry member => ?_, ih ascendingRest⟩
      rcases (mem_insertSorted_iff key value rest entry).1 member with rfl | later
      · exact le_of_not_ge first
      · exact before entry later

/-- Sorted entries stand in order. -/
theorem ascending_sorted (entries : Entries α) : (sorted entries).Ascending := by
  induction entries with
  | nil => exact List.Pairwise.nil
  | cons entry rest ih => exact ih.insertSorted entry.1 entry.2

/-- Entries without repeated names come out of sorting the same exactly if they are the same but
for the order. -/
theorem sorted_eq_sorted_iff {entries others : Entries α} (distinct : (keys entries).Nodup) :
    sorted entries = sorted others ↔ entries.Perm others := by
  constructor
  · intro same
    exact (sorted_perm entries).symm.trans (same ▸ sorted_perm others)
  · intro permuted
    have sortedPermuted : (sorted entries).Perm (sorted others) :=
      (sorted_perm entries).trans (permuted.trans (sorted_perm others).symm)
    refine sortedPermuted.eq_of_pairwise (fun first second isFirst isSecond less greater => ?_)
      (ascending_sorted entries) (ascending_sorted others)
    -- Two entries of one name are the same entry, since names do not repeat.
    have sameName : first.1 = second.1 := le_antisymm less greater
    have inEntries : first ∈ entries := (sorted_perm entries).mem_iff.1 isFirst
    have secondInEntries : second ∈ entries :=
      permuted.mem_iff.2 ((sorted_perm others).mem_iff.1 isSecond)
    exact List.inj_on_of_nodup_map distinct inEntries secondInEntries sameName

/-- As many entries, each of which is read among the others, are the others in some order. -/
theorem perm_iff_read {entries others : Entries α} (distinct : (keys entries).Nodup)
    (distinctOthers : (keys others).Nodup) :
    entries.Perm others ↔ entries.length = others.length ∧
      ∀ entry ∈ entries, others.get? entry.1 = some entry.2 := by
  constructor
  · intro permuted
    exact ⟨permuted.length_eq, fun entry member =>
      get?_of_mem distinctOthers (permuted.mem_iff.1 member)⟩
  · rintro ⟨sameLength, read⟩
    have nodup : entries.Nodup := List.Nodup.of_map _ distinct
    have within : entries ⊆ others := fun entry member => mem_of_get?_eq_some (read entry member)
    exact (nodup.subperm within).perm_of_length_le sameLength.ge

end Entries

namespace Value

/-- Freezing members freezes the value of each. -/
theorem frozenMembers_eq_map (members : Entries Value) :
    frozenMembers members = members.map fun entry => (entry.1, entry.2.frozen) := by
  induction members with
  | nil => rfl
  | cons entry rest ih => rw [frozenMembers, ih, List.map_cons]

/-- Freezing members changes no name. -/
theorem keys_frozenMembers (members : Entries Value) :
    Entries.keys (frozenMembers members) = Entries.keys members := by
  rw [frozenMembers_eq_map, Entries.keys, List.map_map]
  rfl

/-- What is read among frozen members is the frozen form of what is read among members. -/
theorem get?_frozenMembers (members : Entries Value) (key : String) :
    Entries.get? (frozenMembers members) key = (Entries.get? members key).map frozen := by
  rw [frozenMembers_eq_map]
  exact Entries.get?_map_values (fun _ => frozen) members key

/-- What is read in a well-formed object is well formed. -/
theorem wellFormed_of_get? {members : Entries Value} (wellFormed : WellFormedMembers members)
    {key : String} {value : Value} (read : Entries.get? members key = some value) :
    value.WellFormed := by
  induction members with
  | nil => cases read
  | cons entry rest ih =>
    obtain ⟨name, other⟩ := entry
    rw [Entries.get?_cons] at read
    by_cases same : name = key
    · rw [if_pos same, Option.some.injEq] at read
      exact read ▸ wellFormed.1
    · rw [if_neg same] at read
      exact ih wellFormed.2 read

/-- Members of well-formed objects that are found among each other have the same frozen forms, but
for the order. -/
theorem object_equal_iff {members others : Entries Value} (distinct : (Entries.keys members).Nodup)
    (distinctOthers : (Entries.keys others).Nodup)
    (each : equalMembers members others = true ↔
      ∀ entry ∈ frozenMembers members, Entries.get? (frozenMembers others) entry.1 = some entry.2) :
    (object members).equal (object others) = true ↔
      (object members).frozen = (object others).frozen := by
  rw [← keys_frozenMembers] at distinct distinctOthers
  have sameLength : ∀ entries : Entries Value, (frozenMembers entries).length = entries.length := by
    intro entries
    rw [frozenMembers_eq_map, List.length_map]
  rw [equal, Bool.and_eq_true, beq_iff_eq, each, frozen, frozen, Frozen.object.injEq,
    Entries.sorted_eq_sorted_iff distinct, Entries.perm_iff_read distinct distinctOthers,
    sameLength, sameLength]

mutual

/-- Well-formed values are equal exactly if their frozen forms are the same. -/
theorem equal_iff_frozen_eq : ∀ left right : Value, left.WellFormed → right.WellFormed →
    (left.equal right = true ↔ left.frozen = right.frozen)
  | list items, right, wellFormed, wellFormedRight => by
    cases right with
    | list others =>
      rw [equal, frozen, frozen, Frozen.list.injEq]
      exact equalItems_iff items others wellFormed wellFormedRight
    | _ => simp [equal, frozen, magnitude?]
  | object members, right, wellFormed, wellFormedRight => by
    cases right with
    | object others =>
      exact object_equal_iff wellFormed.1 wellFormedRight.1
        (equalMembers_iff members others wellFormed.2 wellFormedRight.2)
    | _ => simp [equal, frozen, magnitude?]
  | null, right, _, _ => by cases right <;> simp [equal, frozen, magnitude?]
  | text _, right, _, _ => by cases right <;> simp [equal, frozen, magnitude?]
  | bool _, right, _, _ => by cases right <;> simp [equal, frozen, magnitude?]
  | int _, right, _, _ => by cases right <;> simp [equal, frozen, magnitude?]
  | double _, right, _, _ => by cases right <;> simp [equal, frozen, magnitude?]

/-- Lists of well-formed items are equal exactly if their frozen items are the same. -/
theorem equalItems_iff : ∀ items others : List Value, WellFormedItems items →
    WellFormedItems others →
    (equalItems items others = true ↔ frozenItems items = frozenItems others)
  | [], others, _, _ => by cases others <;> simp [equalItems, frozenItems]
  | item :: rest, [], _, _ => by simp [equalItems, frozenItems]
  | item :: rest, other :: others, wellFormed, wellFormedOthers => by
    rw [equalItems, Bool.and_eq_true, frozenItems, frozenItems, List.cons.injEq,
      equal_iff_frozen_eq item other wellFormed.1 wellFormedOthers.1,
      equalItems_iff rest others wellFormed.2 wellFormedOthers.2]

/-- Well-formed members all have an equal one among others exactly if each frozen member is read
among the frozen others. -/
theorem equalMembers_iff : ∀ members others : Entries Value, WellFormedMembers members →
    WellFormedMembers others →
    (equalMembers members others = true ↔
      ∀ entry ∈ frozenMembers members, Entries.get? (frozenMembers others) entry.1 = some entry.2)
  | [], _, _, _ => by simp [equalMembers, frozenMembers]
  | (key, value) :: rest, others, wellFormed, wellFormedOthers => by
    rw [equalMembers, Bool.and_eq_true, frozenMembers, List.forall_mem_cons,
      equalMembers_iff rest others wellFormed.2 wellFormedOthers, get?_frozenMembers]
    refine and_congr_left fun _ => ?_
    cases read : Entries.get? others key with
    | none => simp
    | some other =>
      have wellFormedOther := wellFormed_of_get? wellFormedOthers read
      dsimp only
      rw [equal_iff_frozen_eq value other wellFormed.1 wellFormedOther, Option.map_some,
        Option.some.injEq]
      exact eq_comm

end

section Equivalence

variable {left middle right : Value}

/-- A well-formed value is equal to itself. -/
theorem equal_self (wellFormed : left.WellFormed) : left.equal left = true :=
  (equal_iff_frozen_eq left left wellFormed wellFormed).2 rfl

/-- Equal well-formed values are equal the other way round. -/
theorem equal_symm (first : left.WellFormed) (second : right.WellFormed)
    (same : left.equal right = true) : right.equal left = true :=
  (equal_iff_frozen_eq right left second first).2
    ((equal_iff_frozen_eq left right first second).1 same).symm

/-- Well-formed values that are equal to a third one are equal. -/
theorem equal_trans (first : left.WellFormed) (second : middle.WellFormed)
    (third : right.WellFormed) (same : left.equal middle = true)
    (sameNext : middle.equal right = true) : left.equal right = true :=
  (equal_iff_frozen_eq left right first third).2
    (((equal_iff_frozen_eq left middle first second).1 same).trans
      ((equal_iff_frozen_eq middle right second third).1 sameNext))

end Equivalence

end Value

end GraphPattern
