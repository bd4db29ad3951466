import GraphPattern.Value.Basic

/-!
# Equality of values

Two values are equal when they say the same: numbers by their exact magnitude,
however they are written and at any depth, lists item by item, and objects by
their members in whatever order. The frozen form of a value is what such a
comparison can see of it: one form for every number, and members in the order
of their names. Equal values have the same frozen form, so a frozen form can
stand for its class of equal values in a set.
-/

namespace GraphPattern

namespace Value

mutual

/-- Whether two values are equal. -/
def equal (left right : Value) : Bool :=
  match left, right with
  | null, null => true
  | text chars, text others => chars == others
  | list items, list others => equalItems items others
  | object members, object others =>
    members.length == others.length && equalMembers members others
  | left, right =>
    match left.magnitude?, right.magnitude? with
    | some magnitude, some other => magnitude == other
    | _, _ => false

/-- Whether two lists have equal items throughout. -/
def equalItems (items others : List Value) : Bool :=
  match items, others with
  | [], [] => true
  | item :: rest, other :: others => item.equal other && equalItems rest others
  | _, _ => false

/-- Whether every member has an equal one of its name among the others. -/
def equalMembers (members others : List (String × Value)) : Bool :=
  match members with
  | [] => true
  | (key, value) :: rest =>
    (match Entries.get? others key with
      | some other => value.equal other
      | none => false) && equalMembers rest others

end

end Value

/-- A value as a comparison sees it. -/
inductive Frozen where
  /-- The absent value. -/
  | null
  /-- A number or truth value, by its magnitude. -/
  | number (magnitude : Magnitude)
  /-- A text. -/
  | text (chars : String)
  /-- Frozen items in order. -/
  | list (items : List Frozen)
  /-- Frozen members in the order of their names. -/
  | object (members : List (String × Frozen))
  deriving Inhabited

namespace Frozen

mutual

/-- Decides equality of frozen forms. -/
def decideEq : (left right : Frozen) → Decidable (left = right)
  | null, null => .isTrue rfl
  | number left, number right =>
    if same : left = right then .isTrue (congrArg number same)
    else .isFalse fun equal => same (number.inj equal)
  | text left, text right =>
    if same : left = right then .isTrue (congrArg text same)
    else .isFalse fun equal => same (text.inj equal)
  | list left, list right =>
    match decideEqItems left right with
    | .isTrue same => .isTrue (congrArg list same)
    | .isFalse different => .isFalse fun equal => different (list.inj equal)
  | object left, object right =>
    match decideEqMembers left right with
    | .isTrue same => .isTrue (congrArg object same)
    | .isFalse different => .isFalse fun equal => different (object.inj equal)
  | null, number _ | null, text _ | null, list _ | null, object _
  | number _, null | number _, text _ | number _, list _ | number _, object _
  | text _, null | text _, number _ | text _, list _ | text _, object _
  | list _, null | list _, number _ | list _, text _ | list _, object _
  | object _, null | object _, number _ | object _, text _ | object _, list _ =>
    .isFalse (by simp)

/-- Decides equality of frozen lists. -/
def decideEqItems : (left right : List Frozen) → Decidable (left = right)
  | [], [] => .isTrue rfl
  | [], _ :: _ | _ :: _, [] => .isFalse (by simp)
  | left :: lefts, right :: rights =>
    match decideEq left right, decideEqItems lefts rights with
    | .isTrue head, .isTrue tail => .isTrue (head ▸ tail ▸ rfl)
    | .isFalse different, _ => .isFalse fun equal => different (List.cons.inj equal).1
    | _, .isFalse different => .isFalse fun equal => different (List.cons.inj equal).2

/-- Decides equality of frozen members. -/
def decideEqMembers : (left right : List (String × Frozen)) → Decidable (left = right)
  | [], [] => .isTrue rfl
  | [], _ :: _ | _ :: _, [] => .isFalse (by simp)
  | (key, left) :: lefts, (other, right) :: rights =>
    if same : key = other then
      match decideEq left right, decideEqMembers lefts rights with
      | .isTrue head, .isTrue tail => .isTrue (same ▸ head ▸ tail ▸ rfl)
      | .isFalse different, _ =>
        .isFalse fun equal => different (Prod.mk.inj (List.cons.inj equal).1).2
      | _, .isFalse different => .isFalse fun equal => different (List.cons.inj equal).2
    else .isFalse fun equal => same (Prod.mk.inj (List.cons.inj equal).1).1

end

instance : DecidableEq Frozen := decideEq

end Frozen

namespace Value

mutual

/-- The frozen form of a value. -/
def frozen : Value → Frozen
  | null => .null
  | text chars => .text chars
  | list items => .list (frozenItems items)
  | object members => .object (Entries.sorted (frozenMembers members))
  | bool truth => .number (.whole (if truth then 1 else 0))
  | int number => .number (.whole number)
  | double number => .number number.magnitude

/-- The frozen forms of items, in their order. -/
def frozenItems : List Value → List Frozen
  | [] => []
  | item :: rest => item.frozen :: frozenItems rest

/-- The frozen forms of members, in the order of the object. -/
def frozenMembers : List (String × Value) → List (String × Frozen)
  | [] => []
  | (key, value) :: rest => (key, value.frozen) :: frozenMembers rest

end

end Value

end GraphPattern
