import GraphPattern.Proofs.Answering
import Mathlib.Data.Multiset.MapFold

/-!
# The layout of nodes

The members of an object stand in an order, and so do the values in the list
under a name. Two objects that differ in nothing else have the same `@id`, the
same names but for their order, and under each of them the same values but for
their order. This holds of subjects of a pattern as it does of nodes of a graph.
-/

namespace GraphPattern

namespace Node

/-- Two members of one name: `@id` has the same value in both, and any other name has lists that
are related. -/
inductive MemberOver (related : List Value → List Value → Prop) :
    String × Value → String × Value → Prop where
  /-- The member `@id`. -/
  | identifier (value : Value) : MemberOver related ("@id", value) ("@id", value)
  /-- A member with values. -/
  | values {name : String} (different : name ≠ "@id") {items others : List Value}
      (lists : related items others) : MemberOver related (name, .list items) (name, .list others)

namespace MemberOver

variable {related : List Value → List Value → Prop} {member other : String × Value}

/-- The names of both members are the same. -/
theorem name_eq (linked : MemberOver related member other) : member.1 = other.1 := by
  cases linked <;> rfl

/-- The values of both are the same under `@id`. -/
theorem value_eq {first second : Value}
    (linked : MemberOver related ("@id", first) ("@id", second)) : first = second := by
  cases linked with
  | identifier value => rfl
  | values different lists => exact absurd rfl different

/-- Under another name, the lists of both are related. -/
theorem lists_related {name : String} {first second : Value} (different : name ≠ "@id")
    (linked : MemberOver related (name, first) (name, second)) :
    related first.toList second.toList := by
  cases linked with
  | identifier value => exact absurd rfl different
  | values _ lists => exact lists

end MemberOver

/-- An object, in which no name repeats, with its members in another order and the values of each
in another order. -/
inductive Reordered : Value → Value → Prop where
  /-- Members are paired off by their names. -/
  | object {members others : Entries Value} (distinct : (Entries.keys members).Nodup)
      (paired : Multiset.Rel (MemberOver List.Perm) (members : Multiset (String × Value)) others) :
      Reordered (.object members) (.object others)

namespace Reordered

variable {node other : Value}

/-- Both are objects. -/
theorem isObject (reordered : Reordered node other) :
    node.isObject = true ∧ other.isObject = true := by
  cases reordered with
  | object distinct paired => exact ⟨rfl, rfl⟩

/-- Members that are paired off have the same names. -/
theorem keys_perm {members others : Entries Value}
    (paired : Multiset.Rel (MemberOver List.Perm) (members : Multiset (String × Value)) others) :
    (Entries.keys members).Perm (Entries.keys others) := by
  have names : Multiset.Rel (· = ·) ((members : Multiset (String × Value)).map Prod.fst)
      ((others : Multiset (String × Value)).map Prod.fst) :=
    Multiset.rel_map.2 (paired.mono fun _ _ _ _ linked => linked.name_eq)
  exact Multiset.coe_eq_coe.1 (Multiset.rel_eq.1 names)

/-- The names are the same, but for their order. -/
theorem names_perm (reordered : Reordered node other) : (names node).Perm (names other) := by
  cases reordered with
  | object distinct paired => exact (keys_perm paired).filter _

/-- What one of the objects has under a name corresponds to what the other has. -/
theorem member?_cases (reordered : Reordered node other) (name : String) :
    (node.member? name = none ∧ other.member? name = none) ∨
      ∃ first second, node.member? name = some first ∧ other.member? name = some second ∧
        MemberOver List.Perm (name, first) (name, second) := by
  cases reordered with
  | @object members others distinct paired =>
    have sameKeys := keys_perm paired
    cases held : Entries.get? members name with
    | none =>
      have missing := (Entries.get?_eq_none_iff members name).1 held
      rw [sameKeys.mem_iff] at missing
      exact .inl ⟨held, (Entries.get?_eq_none_iff others name).2 missing⟩
    | some first =>
      have inMembers : (name, first) ∈ (members : Multiset (String × Value)) :=
        Entries.mem_of_get?_eq_some held
      obtain ⟨⟨otherName, second⟩, inOthers, linked⟩ :=
        Multiset.exists_mem_of_rel_of_mem paired inMembers
      obtain rfl : name = otherName := linked.name_eq
      have distinctOthers : (Entries.keys others).Nodup := sameKeys.nodup_iff.1 distinct
      have given := Entries.get?_of_mem distinctOthers inOthers
      exact .inr ⟨first, second, held, given, linked⟩

/-- Both objects go by the same `@id`. -/
theorem identifier_eq (reordered : Reordered node other) : identifier node = identifier other := by
  unfold identifier
  rcases reordered.member?_cases "@id" with
    ⟨absent, absentOther⟩ | ⟨first, second, held, given, linked⟩
  · rw [absent, absentOther]
  · rw [held, given, linked.value_eq]

/-- The values of a predicate are the same, but for their order. -/
theorem valuesOf_perm (reordered : Reordered node other) {name : String}
    (different : name ≠ "@id") : (valuesOf node name).Perm (valuesOf other name) := by
  unfold valuesOf
  rcases reordered.member?_cases name with
    ⟨absent, absentOther⟩ | ⟨first, second, held, given, linked⟩
  · rw [absent, absentOther]
  · rw [held, given]
    exact linked.lists_related different

end Reordered

end Node

end GraphPattern
