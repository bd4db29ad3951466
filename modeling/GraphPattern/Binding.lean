import GraphPattern.Error
import GraphPattern.Term
import GraphPattern.Value.Hashing

/-!
# Bindings

A binding assigns values to variables, in the order in which the variables were
bound. Each variable is bound once. Merging two bindings never overwrites: the
first value of a variable stays, and variables that only the second one binds
follow in their order.

A set of bindings finds its elements by their hash codes: a binding is taken for
an element if both have the same code and are equal. Equal bindings with
different codes would stand in a set side by side.
-/

namespace GraphPattern

/-- An ordered assignment of values to variables. -/
@[ext]
structure Binding where
  /-- The assigned values in order. -/
  entries : Entries Value
  /-- No variable is assigned twice. -/
  distinct : entries.keys.Nodup := by decide

namespace Binding

/-- The binding that assigns nothing. -/
def empty : Binding := ⟨[], by simp⟩

instance : Inhabited Binding := ⟨empty⟩

/-- The binding of one variable. -/
def single (name : String) (value : Value) : Binding := ⟨[(name, value)], by simp⟩

/-- The binding written by assignments one after the other. -/
def ofPairs (pairs : List (String × Value)) : Binding :=
  ⟨Entries.ofPairs pairs, Entries.nodup_keys_ofPairs pairs⟩

/-- The names that cannot be given as named values, since they stand for the binding itself and for
the assignments in front of them. -/
def reservedNames : List String := ["self", "data"]

/-- The binding written by assignments and then by named values. The first of the names that is
reserved is refused. -/
def ofNamed (pairs named : List (String × Value)) : Except Error Binding :=
  match (named.map Prod.fst).find? reservedNames.contains with
  | some name =>
    .error (.unsupported ("Binding.__init__() got multiple values for argument '" ++ name ++ "'"))
  | none => .ok (ofPairs (pairs ++ named))

/-- The bound variables, in order. -/
def keys (binding : Binding) : List String := Entries.keys binding.entries

/-- The value of a variable, if it is bound. -/
def get? (binding : Binding) (name : String) : Option Value :=
  Entries.get? binding.entries name

/-- The value of a variable, or the error of reading one that is not bound. -/
def get (binding : Binding) (name : String) : Except Error Value :=
  match binding.get? name with
  | some value => .ok value
  | none => .error (.missingKey name)

/-- Whether a variable is bound. -/
def has (binding : Binding) (name : String) : Bool := Entries.has binding.entries name

/-- The binding with the variables of the other that it does not bind yet. -/
def merged (binding other : Binding) : Binding where
  entries := binding.entries ++ other.entries.filter fun entry => !binding.has entry.1
  distinct := by
    rw [Entries.keys, List.map_append, List.nodup_append]
    refine ⟨binding.distinct, ?_, ?_⟩
    · exact other.distinct.sublist (List.filter_sublist.map _)
    · rintro name present added member rfl
      obtain ⟨entry, kept, rfl⟩ := List.mem_map.1 member
      have absent := (List.mem_filter.1 kept).2
      have bound : binding.has entry.1 = true :=
        (Entries.has_iff_mem_keys _ _).2 present
      simp [bound] at absent

/-- The binding of those given variables that are bound. -/
def restricted (binding : Binding) (kept : List String) : Binding where
  entries := binding.entries.filter fun entry => kept.contains entry.1
  distinct := binding.distinct.sublist (List.filter_sublist.map _)

/-- The kind of every bound value. -/
def kinds (binding : Binding) : List (String × TermKind) :=
  binding.entries.map fun (name, value) => (name, termKind blankPrefix value)

/-- The binding as an object. -/
def toValue (binding : Binding) : Value := .object binding.entries

/-- Whether two bindings bind equal values to the same variables, in whatever order. -/
def equal (binding other : Binding) : Bool := binding.toValue.equal other.toValue

/-- The frozen form of a binding, the same for equal bindings. -/
def frozen (binding : Binding) : Frozen := binding.toValue.frozen

/-- The fixed form of a binding, which stands in a set for it. -/
def fixed (binding : Binding) : Fixed := binding.toValue.fixed

/-- The hash code of a binding. -/
def hash (hashing : Hashing) (binding : Binding) : UInt64 := binding.toValue.hash hashing

/-- Whether a set takes a binding for one of its elements. -/
def takenFor (hashing : Hashing) (element binding : Binding) : Bool :=
  element.hash hashing == binding.hash hashing && element.equal binding

/-- A binding as messages show it. -/
def literal (binding : Binding) : String := "Binding(" ++ binding.toValue.literal ++ ")"

/-- The pairs of values that two bindings give to the variables they share, in the order of the
extension, its value first. -/
def shared (binding extension : Binding) : List (Value × Value) :=
  extension.entries.filterMap fun (name, value) =>
    (binding.get? name).map fun bound => (value, bound)

/-- The pairs of values that two bindings give to the same variables, in the order of the first,
provided that both bind the same ones. -/
def aligned? (binding other : Binding) : Option (List (Value × Value)) :=
  if binding.keys.all other.has && other.keys.all binding.has then
    some (binding.entries.filterMap fun (name, value) =>
      (other.get? name).map fun bound => (value, bound))
  else none

/-- The merged binding binds the variables of the first and then the new ones of the second. -/
theorem keys_merged (binding other : Binding) :
    (binding.merged other).keys =
      binding.keys ++ other.keys.filter fun key => !binding.has key := by
  simp [merged, keys, Entries.keys, List.filter_map, Function.comp_def]

/-- Restricting keeps the order of the variables. -/
theorem keys_restricted (binding : Binding) (kept : List String) :
    (binding.restricted kept).keys = binding.keys.filter kept.contains := by
  simp [restricted, keys, Entries.keys, List.filter_map, Function.comp_def]

end Binding

/-- A set of bindings. -/
structure BindingSet (hashing : Hashing) where
  /-- The elements in the order in which they came. -/
  elements : List Binding
  /-- No element was taken for an earlier one. -/
  distinct : elements.Pairwise fun earlier later => earlier.takenFor hashing later = false

namespace BindingSet

variable {hashing : Hashing}

/-- The set without elements. -/
def empty : BindingSet hashing := ⟨[], .nil⟩

/-- The set with one more element, unless the binding is taken for one that is there. -/
def insert (set : BindingSet hashing) (binding : Binding) : BindingSet hashing :=
  if found : set.elements.any fun element => element.takenFor hashing binding then set
  else
    { elements := set.elements ++ [binding]
      distinct := by
        rw [List.any_eq_true, not_exists] at found
        refine List.pairwise_append.2 ⟨set.distinct, List.pairwise_singleton _ _, ?_⟩
        intro element member added isBinding
        rw [List.mem_singleton.1 isBinding, ← Bool.not_eq_true]
        exact fun taken => found element ⟨member, taken⟩ }

/-- The set of the bindings in a list. -/
def ofList (hashing : Hashing) (bindings : List Binding) : BindingSet hashing :=
  bindings.foldl insert empty

/-- The number of elements. -/
def size (set : BindingSet hashing) : Nat := set.elements.length

end BindingSet

/-- How many different bindings a list holds, equal ones counted once. -/
def Binding.countDistinct (bindings : List Binding) : Nat :=
  (BindingSet.ofList .mixing bindings).size

end GraphPattern
