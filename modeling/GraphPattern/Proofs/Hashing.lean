import GraphPattern.Proofs.FixedForm
import Mathlib.Data.Set.Card

/-!
# Hashing bindings

A set holds one binding of each class of equal ones only if equal bindings have
one hash code; otherwise it could hold several. What the elements of a set have
to do with the bindings that were put into it is an invariant of insertion, kept
one binding at a time.

Main statement: equality of bindings is an equivalence, which the comparison of
fixed forms and that of frozen forms decide as well; equal bindings have one hash
code; and the set of the bindings in a list has as many elements as there are
classes of equal bindings in the list.
-/

namespace GraphPattern

/-- A binding to values in which no object repeats a name. -/
abbrev WellFormedBinding := {binding : Binding // binding.toValue.WellFormed}

namespace WellFormedBinding

/-- Equality of bindings is an equivalence. -/
theorem equivalence_equal :
    Equivalence fun first second : WellFormedBinding => first.1.equal second.1 = true where
  refl binding := Value.equal_self binding.2
  symm {first second} same := Value.equal_symm first.2 second.2 same
  trans {first second third} same next := Value.equal_trans first.2 second.2 third.2 same next

/-- The bindings that are equal to a given one. -/
def equalityClass (binding : WellFormedBinding) : Set WellFormedBinding :=
  {other | binding.1.equal other.1 = true}

/-- Bindings are equal exactly if they have one class. -/
theorem equalityClass_eq_iff (first second : WellFormedBinding) :
    first.equalityClass = second.equalityClass ↔ first.1.equal second.1 = true := by
  constructor
  · intro sameClass
    have member : second ∈ second.equalityClass := equivalence_equal.refl second
    rw [← sameClass] at member
    exact member
  · intro same
    ext other
    exact ⟨fun equal => equivalence_equal.trans (equivalence_equal.symm same) equal,
      fun equal => equivalence_equal.trans same equal⟩

end WellFormedBinding

namespace BindingSet

variable {hashing : Hashing}

/-- A binding is put at the end unless it is taken for an element. -/
theorem elements_insert (set : BindingSet hashing) (binding : Binding) :
    (set.insert binding).elements =
      if set.elements.any fun element => element.takenFor hashing binding then set.elements
      else set.elements ++ [binding] := by
  unfold insert
  split
  · rfl
  · rfl

/-- The elements of a set come from a list, and each binding of the list is equal to one of
them. -/
structure Collects (set : BindingSet hashing) (bindings : List Binding) : Prop where
  /-- Elements come from the list. -/
  listed : ∀ element ∈ set.elements, element ∈ bindings
  /-- No binding of the list was lost. -/
  represented : ∀ binding ∈ bindings, ∃ element ∈ set.elements, element.equal binding = true

/-- Inserting one more binding, equal to itself, collects one more. -/
theorem Collects.insert {set : BindingSet hashing} {bindings : List Binding}
    (collects : set.Collects bindings) {binding : Binding}
    (self : binding.equal binding = true) :
    (set.insert binding).Collects (bindings ++ [binding]) := by
  have kept : ∀ element ∈ set.elements, element ∈ (set.insert binding).elements := by
    intro element member
    rw [elements_insert]
    split
    · exact member
    · exact List.mem_append_left _ member
  constructor
  · intro element member
    rw [elements_insert] at member
    split at member
    · exact List.mem_append_left _ (collects.listed element member)
    · rcases List.mem_append.1 member with earlier | added
      · exact List.mem_append_left _ (collects.listed element earlier)
      · exact List.mem_append_right _ added
  · intro other member
    rcases List.mem_append.1 member with earlier | added
    · obtain ⟨element, present, same⟩ := collects.represented other earlier
      exact ⟨element, kept element present, same⟩
    · rw [List.mem_singleton.1 added]
      by_cases found : set.elements.any fun element => element.takenFor hashing binding
      · obtain ⟨element, present, taken⟩ := List.any_eq_true.1 found
        exact ⟨element, kept element present, (Bool.and_eq_true_iff.1 taken).2⟩
      · refine ⟨binding, ?_, self⟩
        rw [elements_insert, if_neg found]
        exact List.mem_append_right _ List.mem_cons_self

/-- The set of a list collects it. -/
theorem collects_ofList {bindings : List Binding}
    (self : ∀ binding ∈ bindings, binding.equal binding = true) :
    (ofList hashing bindings).Collects bindings := by
  induction bindings using List.reverseRecOn with
  | nil => exact ⟨fun _ member => member, fun _ member => absurd member List.not_mem_nil⟩
  | append_singleton front binding ih =>
    rw [List.forall_mem_append, List.forall_mem_singleton] at self
    rw [ofList, List.foldl_append]
    exact (ih self.1).insert self.2

/-- No two elements are equal, if no object in them repeats a name: they would have one hash code
and one would have been taken for the other. -/
theorem pairwise_not_equal (set : BindingSet hashing)
    (wellFormed : ∀ element ∈ set.elements, element.toValue.WellFormed) :
    set.elements.Pairwise fun earlier later => ¬ earlier.equal later = true := by
  refine set.distinct.imp_of_mem fun {earlier later} isEarlier isLater different same => ?_
  have sameHash : earlier.hash hashing = later.hash hashing :=
    Value.hash_eq_of_equal hashing (wellFormed earlier isEarlier) (wellFormed later isLater) same
  rw [Binding.takenFor, sameHash, same, beq_self_eq_true] at different
  cases different

/-- A set has as many elements as the bindings that it collects have classes. -/
theorem Collects.size_eq {set : BindingSet hashing} {bindings : List WellFormedBinding}
    (collects : set.Collects (bindings.map Subtype.val)) :
    set.size = (WellFormedBinding.equalityClass '' {binding | binding ∈ bindings}).ncard := by
  classical
  have wellFormed : ∀ element ∈ set.elements, element.toValue.WellFormed := by
    intro element member
    obtain ⟨binding, _, rfl⟩ := List.mem_map.1 (collects.listed element member)
    exact binding.2
  obtain ⟨elements, values⟩ : ∃ elements : List WellFormedBinding,
      elements.map Subtype.val = set.elements := CanLift.prf set.elements wellFormed
  have distinct : (elements.map WellFormedBinding.equalityClass).Nodup := by
    have different := set.pairwise_not_equal wellFormed
    rw [← values, List.pairwise_map] at different
    refine List.pairwise_map.2 (different.imp fun {earlier later} notEqual sameClass => ?_)
    exact notEqual ((WellFormedBinding.equalityClass_eq_iff earlier later).1 sameClass)
  have classes : WellFormedBinding.equalityClass '' {binding | binding ∈ bindings} =
      ((elements.map WellFormedBinding.equalityClass).toFinset : Set (Set WellFormedBinding)) := by
    ext members
    rw [List.coe_toFinset, Set.mem_ofPred_eq, List.mem_map]
    constructor
    · rintro ⟨binding, listed, rfl⟩
      obtain ⟨element, present, same⟩ :=
        collects.represented binding.1 (List.mem_map_of_mem listed)
      rw [← values] at present
      obtain ⟨element, isElement, rfl⟩ := List.mem_map.1 present
      exact ⟨element, isElement, (WellFormedBinding.equalityClass_eq_iff _ _).2 same⟩
    · rintro ⟨element, isElement, rfl⟩
      have present : element.1 ∈ set.elements := values ▸ List.mem_map_of_mem isElement
      obtain ⟨binding, listed, same⟩ := List.mem_map.1 (collects.listed element.1 present)
      exact ⟨element, Subtype.ext same ▸ listed, rfl⟩
  rw [classes, Set.ncard_coe_finset, List.toFinset_card_of_nodup distinct, List.length_map, size,
    ← values, List.length_map]

end BindingSet

namespace Binding

/-- Hashing is consistent with equality. Equality of bindings is an equivalence. It regards
neither the order of variables and names, at any depth, nor how a number is written, and compares
lists in order. The fixed forms of two bindings are equal, and their frozen forms are the same,
exactly if the bindings are equal. However scalars, tuples and sets are hashed, equal bindings have
one hash code, and the set of the bindings in a list has as many elements as there are classes of
equal bindings in the list. -/
theorem hashing_consistent (hashing : Hashing) :
    (Equivalence fun first second : WellFormedBinding => first.1.equal second.1 = true) ∧
    (∀ first second : WellFormedBinding,
      (first.1.equal second.1 = true ↔ first.1.toValue.Equals second.1.toValue) ∧
      (first.1.equal second.1 = true ↔ first.1.fixed.equal second.1.fixed = true) ∧
      (first.1.equal second.1 = true ↔ first.1.frozen = second.1.frozen) ∧
      (first.1.equal second.1 = true → first.1.hash hashing = second.1.hash hashing)) ∧
    ∀ bindings : List WellFormedBinding,
      (BindingSet.ofList hashing (bindings.map Subtype.val)).size =
        (WellFormedBinding.equalityClass '' {binding | binding ∈ bindings}).ncard := by
  refine ⟨WellFormedBinding.equivalence_equal, fun first second => ⟨?_, ?_, ?_, ?_⟩,
    fun bindings => ?_⟩
  · exact Value.equal_iff_equals _ _ first.2 second.2
  · rw [equal, fixed, fixed, Value.equal_fixed _ _ second.2]
  · exact Value.equal_iff_frozen_eq _ _ first.2 second.2
  · exact Value.hash_eq_of_equal hashing first.2 second.2
  · refine (BindingSet.collects_ofList fun binding member => ?_).size_eq
    obtain ⟨wellFormed, _, rfl⟩ := List.mem_map.1 member
    exact WellFormedBinding.equivalence_equal.refl wellFormed

/-- Two bindings in other orders and with other spellings of their numbers are one in a set; a text
that spells a number is something else. -/
theorem hashing_consistent_nested :
    let node (items : List Value) : Value := .object [("p", .list items), ("@id", .text "x")]
    let whole : Binding :=
      ⟨[("o", .object [("@id", .text "x"), ("p", .list [.int 1, .int 0])]), ("t", .bool true)],
        by decide⟩
    let spelled : Binding :=
      ⟨[("t", .double (.finite false Double.unitsPerOne)),
        ("o", node [.bool true, .double (.finite true 0)])], by decide⟩
    let text : Binding := ⟨[("t", .text "1"), ("o", node [.int 1, .int 0])], by decide⟩
    whole.equal spelled = true ∧ whole.fixed.equal spelled.fixed = true ∧
      whole.hash .mixing = spelled.hash .mixing ∧ countDistinct [whole, spelled, text] = 2 := by
  intro node whole spelled text
  obtain ⟨_, agree, count⟩ := hashing_consistent .mixing
  let first : WellFormedBinding := ⟨whole, by
    simp [whole, toValue, Value.WellFormed, Value.WellFormedMembers, Value.WellFormedItems,
      Entries.keys]⟩
  let second : WellFormedBinding := ⟨spelled, by
    simp [spelled, node, toValue, Value.WellFormed, Value.WellFormedMembers, Value.WellFormedItems,
      Entries.keys]⟩
  let third : WellFormedBinding := ⟨text, by
    simp [text, node, toValue, Value.WellFormed, Value.WellFormedMembers, Value.WellFormedItems,
      Entries.keys]⟩
  have same : whole.equal spelled = true := by decide +kernel
  have different : ¬ whole.equal text = true := by decide +kernel
  obtain ⟨-, fixedForms, -, codes⟩ := agree first second
  refine ⟨same, fixedForms.1 same, codes same, ?_⟩
  have sameClass : second.equalityClass = first.equalityClass :=
    ((WellFormedBinding.equalityClass_eq_iff first second).2 same).symm
  have otherClass : first.equalityClass ≠ third.equalityClass := fun equal =>
    different ((WellFormedBinding.equalityClass_eq_iff first third).1 equal)
  have counted : countDistinct [whole, spelled, text] =
      (WellFormedBinding.equalityClass '' {binding | binding ∈ [first, second, third]}).ncard :=
    count [first, second, third]
  have listed : {binding | binding ∈ [first, second, third]} =
      ({first, second, third} : Set WellFormedBinding) := by
    ext binding
    simp only [Set.mem_ofPred_eq, List.mem_cons, List.not_mem_nil, or_false, Set.mem_insert_iff,
      Set.mem_singleton_iff]
  rw [counted, listed, Set.image_insert_eq, Set.image_pair, sameClass,
    Set.insert_eq_of_mem (Set.mem_insert _ _), Set.ncard_pair otherClass]

end Binding

end GraphPattern
