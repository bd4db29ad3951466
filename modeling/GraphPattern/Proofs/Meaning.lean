import GraphPattern.JsonLd.Flatten
import GraphPattern.Proofs.Equality
import GraphPattern.Proofs.Following
import GraphPattern.Proofs.Sameness

/-!
# What graph values mean

Sameness of graph values glues several notions of equality together: scalars,
value objects and nodes have one each, and a bare text meets whatever names it.
Still there is one thing that a value is known by, its meaning, and values that
are the same are those that have it in common. Only objects that neither hold a
value nor name anything mean nothing, so they are not even the same as
themselves.

Main statement: sameness, as the accessor for JSON-LD documents compares values,
is symmetric and transitive on plain values, and it is reflexive for all of them
but those that mean nothing.
-/

namespace GraphPattern

/-- What a graph value is known by when values are compared. -/
inductive Meaning where
  /-- A scalar or list by its form; truth values are told apart from numbers. -/
  | scalar (isTruth : Bool) (form : Frozen)
  /-- A value object by its type, language, index and value. -/
  | valued (type language index : Frozen) (isTruth : Bool) (form : Frozen)
  /-- An identifier, or whatever else stands for a node. -/
  | named (identifier : Frozen)

namespace Value

/-- Whether a value is a truth value. -/
def isTruth : Value → Bool
  | bool _ => true
  | _ => false

/-- The form of what an object has under a name, an absent member counting as null. -/
def formAt (value : Value) (key : String) : Frozen := ((value.member? key).getD null).frozen

/-- The form of what an object names, which is its `@id` unless that is null. -/
def nameForm? (value : Value) : Option Frozen :=
  match value.member? "@id" with
  | none | some null => none
  | some identifier => some identifier.frozen

/-- The meaning of a value. An object means its `@value`, or else what it names, if anything. -/
def meaning? (value : Value) : Option Meaning :=
  match value with
  | text chars => some (.named (.text chars))
  | object _ =>
    match value.member? "@value" with
    | some held =>
      some (.valued (value.formAt "@type") (value.formAt "@language") (value.formAt "@index")
        held.isTruth held.frozen)
    | none => value.nameForm?.map .named
  | other => some (.scalar other.isTruth other.frozen)

/-- An object that holds no value and names nothing, since its `@id` is absent or null. -/
def Anonymous (value : Value) : Prop :=
  value.isObject = true ∧ value.member? "@value" = none ∧
    (value.member? "@id" = none ∨ value.member? "@id" = some null)

/-- The members of a well-formed object are well formed. -/
theorem WellFormed.member {value held : Value} (wellFormed : value.WellFormed) {key : String}
    (read : value.member? key = some held) : held.WellFormed := by
  cases value with
  | object members => exact wellFormed_of_get? wellFormed.2 read
  | _ => cases read

/-- What holds a value means that. -/
theorem meaning?_of_valued {value held : Value} (holds : value.member? "@value" = some held) :
    value.meaning? = some (.valued (value.formAt "@type") (value.formAt "@language")
      (value.formAt "@index") held.isTruth held.frozen) := by
  cases value with
  | object members => rw [meaning?, holds]
  | _ => cases holds

/-- An object that holds no value means what it names, if it names something. -/
theorem meaning?_of_unvalued {value : Value} (object : value.isObject = true)
    (unvalued : value.member? "@value" = none) :
    value.meaning? = value.nameForm?.map .named := by
  cases value with
  | object members => rw [meaning?, unvalued]
  | _ => cases object

/-- A value means what an identifier names exactly if it names the identifier. -/
theorem identifierOf_iff_meaning? (value : Value) (identifier : String) :
    identifierOf value = some identifier ↔
      value.meaning? = some (.named (.text identifier)) := by
  rw [identifierOf_eq_some_iff]
  cases value with
  | text chars => simp [meaning?, member?]
  | object members =>
    rw [meaning?]
    cases held : (object members).member? "@value" with
    | some value => simp
    | none =>
      unfold nameForm?
      cases given : (object members).member? "@id" with
      | none => simp
      | some name => cases name <;> simp [frozen]
  | _ => simp [meaning?, member?]

/-- A plain value that holds a value names nothing by an `@id`. -/
theorem Plain.nameForm?_of_valued {value held : Value} (plain : value.Plain)
    (holds : value.member? "@value" = some held) : value.nameForm? = none := by
  rcases plain with unvalued | unnamed
  · rw [unvalued] at holds
    cases holds
  · rw [nameForm?, unnamed]

/-- Two values name the same identifier exactly if there is an identifier that both name. -/
theorem sameIdentifier_iff (left right : Value) :
    left.sameIdentifier right = true ↔
      ∃ identifier, identifierOf left = some identifier ∧ identifierOf right = some identifier := by
  unfold sameIdentifier
  cases identifierOf left with
  | none => simp
  | some identifier => simp

/-- Only objects have members. -/
theorem isObject_of_member? {value held : Value} {key : String}
    (holds : value.member? key = some held) : value.isObject = true := by
  cases value with
  | object members => rfl
  | _ => cases holds

section Forms

variable {left right : Value}

/-- Scalars and lists are strictly equal exactly if they have the same form and neither or both are
truth values. -/
theorem strictlyEqual_iff (first : left.WellFormed) (second : right.WellFormed) :
    left.strictlyEqual right = true ↔
      left.isTruth = right.isTruth ∧ left.frozen = right.frozen := by
  rw [← equal_iff_frozen_eq left right first second]
  cases left with
  | bool truth =>
    cases right with
    | bool other => cases truth <;> cases other <;> decide
    | _ => simp [strictlyEqual, isTruth]
  | _ => cases right <;> simp [strictlyEqual, isTruth]

/-- Objects agree on a member exactly if it has the same form in both. -/
theorem agreesOn_iff (first : left.WellFormed) (second : right.WellFormed) (key : String) :
    agreesOn key left right = true ↔ left.formAt key = right.formAt key := by
  have wellFormed : ∀ {value : Value}, value.WellFormed →
      ((value.member? key).getD null).WellFormed := by
    intro value whole
    cases read : value.member? key with
    | none => trivial
    | some held => exact whole.member read
  exact equal_iff_frozen_eq _ _ (wellFormed first) (wellFormed second)

/-- Values are the same as nodes exactly if both name something and its form is the same. -/
theorem sameNode_iff (first : left.WellFormed) (second : right.WellFormed) :
    left.sameNode right = true ↔
      ∃ form, left.nameForm? = some form ∧ right.nameForm? = some form := by
  unfold sameNode nameForm?
  cases held : left.member? "@id" with
  | none => simp
  | some identifier =>
    cases given : right.member? "@id" with
    | none => cases identifier <;> simp
    | some other =>
      have same := equal_iff_frozen_eq identifier other (first.member held) (second.member given)
      cases identifier with
      | null => simp
      | _ => cases other <;> simp [same, frozen, eq_comm]

/-- Value objects with the given values are the same exactly if they mean the same. -/
theorem sameValueObject_iff (first : left.WellFormed) (second : right.WellFormed)
    {value other : Value} (held : left.member? "@value" = some value)
    (given : right.member? "@value" = some other) :
    left.sameValueObject right value other = true ↔ left.meaning? = right.meaning? := by
  have leftMeaning := meaning?_of_valued held
  have rightMeaning := meaning?_of_valued given
  rw [leftMeaning, rightMeaning, sameValueObject, Bool.and_eq_true, Bool.and_eq_true,
    Bool.and_eq_true, agreesOn_iff first second, agreesOn_iff first second,
    agreesOn_iff first second, strictlyEqual_iff (first.member held) (second.member given)]
  simp only [Option.some.injEq, Meaning.valued.injEq, and_assoc]

/-- Of two values that are no objects, a document says the same exactly if they have a meaning in
common. -/
theorem sameInDocument_iff_of_scalars (first : left.WellFormed) (second : right.WellFormed)
    (scalar : left.isObject = false) (scalarRight : right.isObject = false) :
    left.sameInDocument right = true ↔
      ∃ meaning, left.meaning? = some meaning ∧ right.meaning? = some meaning := by
  have strictly : left.sameInDocument right = left.strictlyEqual right := by
    rw [sameInDocument, scalar, scalarRight]
    rfl
  rw [strictly, strictlyEqual_iff first second]
  cases left with
  | object members => cases scalar
  | _ =>
    cases right with
    | object others => cases scalarRight
    | _ => simp [meaning?, frozen, isTruth, eq_comm]

/-- Of two plain objects, a document says the same exactly if they have a meaning in common. -/
theorem sameInDocument_iff_of_objects (first : left.WellFormed) (second : right.WellFormed)
    (plain : left.Plain) (plainRight : right.Plain) (object : left.isObject = true)
    (objectRight : right.isObject = true) :
    left.sameInDocument right = true ↔
      ∃ meaning, left.meaning? = some meaning ∧ right.meaning? = some meaning := by
  rw [sameInDocument, object, Bool.true_or, if_pos rfl]
  cases held : left.member? "@value" with
  | none =>
    have leftMeaning := meaning?_of_unvalued object held
    cases given : right.member? "@value" with
    | none =>
      rw [leftMeaning, meaning?_of_unvalued objectRight given, sameNode_iff first second]
      simp
    | some other =>
      rw [leftMeaning, meaning?_of_valued given, sameNode_iff first second,
        plainRight.nameForm?_of_valued given]
      simp
  | some value =>
    have leftMeaning := meaning?_of_valued held
    cases given : right.member? "@value" with
    | none =>
      rw [leftMeaning, meaning?_of_unvalued objectRight given, sameNode_iff first second,
        plain.nameForm?_of_valued held]
      simp
    | some other =>
      dsimp only
      rw [sameValueObject_iff first second held given, leftMeaning, meaning?_of_valued given]
      simp [eq_comm]

/-- An object and a value that is none name the same identifier if they have a meaning in
common. -/
theorem identifierOf_of_mixed (scalar : left.isObject = false) (object : right.isObject = true)
    {meaning : Meaning} (means : left.meaning? = some meaning)
    (meansRight : right.meaning? = some meaning) :
    ∃ identifier, identifierOf left = some identifier ∧ identifierOf right = some identifier := by
  cases left with
  | text chars =>
    obtain rfl := Option.some.inj means
    exact ⟨chars, rfl, (identifierOf_iff_meaning? right chars).2 meansRight⟩
  | object members => cases scalar
  | _ =>
    -- No object means a scalar.
    obtain rfl := Option.some.inj means
    cases held : right.member? "@value" with
    | some value =>
      rw [meaning?_of_valued held] at meansRight
      cases meansRight
    | none =>
      rw [meaning?_of_unvalued object held, Option.map_eq_some_iff] at meansRight
      obtain ⟨_, _, different⟩ := meansRight
      cases different

/-- A document never says the same of an object and of a value that is none. -/
theorem isObject_eq_of_sameInDocument (same : left.sameInDocument right = true) :
    left.isObject = right.isObject := by
  have nodes : left.sameNode right = true → left.isObject = right.isObject := fun nodes =>
    (isObject_of_sameNode nodes).1.trans (isObject_of_sameNode nodes).2.symm
  unfold sameInDocument at same
  by_cases object : (left.isObject || right.isObject) = true
  · rw [if_pos object] at same
    cases held : left.member? "@value" with
    | none =>
      rw [held] at same
      exact nodes same
    | some value =>
      cases given : right.member? "@value" with
      | none =>
        rw [held, given] at same
        exact nodes same
      | some other => rw [isObject_of_member? held, isObject_of_member? given]
  · rw [Bool.not_eq_true, Bool.or_eq_false_iff] at object
    rw [object.1, object.2]

/-- Plain values are the same exactly if they have a meaning in common. -/
theorem sameTerm_iff_meaning? (first : left.WellFormed) (second : right.WellFormed)
    (plain : left.Plain) (plainRight : right.Plain) :
    left.sameTerm right = true ↔
      ∃ meaning, left.meaning? = some meaning ∧ right.meaning? = some meaning := by
  rw [sameTerm, Bool.or_eq_true, sameIdentifier_iff]
  have named : (∃ identifier, identifierOf left = some identifier ∧
        identifierOf right = some identifier) →
      ∃ meaning, left.meaning? = some meaning ∧ right.meaning? = some meaning := by
    rintro ⟨identifier, names, namesRight⟩
    exact ⟨_, (identifierOf_iff_meaning? left identifier).1 names,
      (identifierOf_iff_meaning? right identifier).1 namesRight⟩
  by_cases alike : left.isObject = right.isObject
  · have document : left.sameInDocument right = true ↔
        ∃ meaning, left.meaning? = some meaning ∧ right.meaning? = some meaning := by
      cases object : left.isObject with
      | false => exact sameInDocument_iff_of_scalars first second object (alike ▸ object)
      | true =>
        exact sameInDocument_iff_of_objects first second plain plainRight object (alike ▸ object)
    rw [document]
    exact or_iff_left_of_imp named
  · -- An object and a value that is none can only be the same by an identifier.
    rw [or_iff_right fun document => alike (isObject_eq_of_sameInDocument document)]
    refine ⟨named, ?_⟩
    rintro ⟨meaning, means, meansRight⟩
    cases object : left.isObject with
    | false =>
      have objectRight : right.isObject = true := by simpa [object] using alike
      exact identifierOf_of_mixed object objectRight means meansRight
    | true =>
      have scalarRight : right.isObject = false := by simpa [object] using alike
      obtain ⟨identifier, namesRight, names⟩ :=
        identifierOf_of_mixed scalarRight object meansRight means
      exact ⟨identifier, names, namesRight⟩

end Forms

/-- The values that mean something are all but the anonymous objects. -/
theorem meaning?_eq_none_iff (value : Value) : value.meaning? = none ↔ value.Anonymous := by
  cases value with
  | object members =>
    have object : (Value.object members).isObject = true := rfl
    rw [Anonymous]
    cases held : (Value.object members).member? "@value" with
    | some value => simp [meaning?_of_valued held]
    | none =>
      rw [meaning?_of_unvalued object held, Option.map_eq_none_iff, nameForm?]
      cases given : (Value.object members).member? "@id" with
      | none => simp [object]
      | some name => cases name <;> simp [object]
  | _ => simp [meaning?, Anonymous, isObject]

end Value

namespace Accessor

/-- Sameness of graph values is a partial equivalence. The accessor for JSON-LD documents
compares any two values without an error. On values that do not have both an `@value` and an
`@id`, and in which no object repeats a name, the comparison is symmetric and transitive, and
exactly those are the same as themselves that are not anonymous. -/
theorem compareValues_partialEquivalence (documents : Entries Value) (base : Option String) :
    let compare := (jsonLd documents base).compareValues
    compare.Total ∧
    (∀ left right : Value, left.WellFormed → right.WellFormed → left.Plain → right.Plain →
      compare left right = .ok true → compare right left = .ok true) ∧
    (∀ left middle right : Value, left.WellFormed → middle.WellFormed → right.WellFormed →
      left.Plain → middle.Plain → right.Plain →
      compare left middle = .ok true → compare middle right = .ok true →
      compare left right = .ok true) ∧
    ∀ value : Value, value.WellFormed → value.Plain →
      (compare value value = .ok true ↔ ¬ value.Anonymous) := by
  intro compare
  have compares : ∀ left right : Value,
      compare left right = .ok true ↔ left.sameTerm right = true := by
    intro left right
    show (Except.ok (left.sameTerm right) : Except Error Bool) = .ok true ↔ _
    rw [Except.ok.injEq]
  refine ⟨fun left right => ⟨left.sameTerm right, rfl⟩, ?_, ?_, ?_⟩
  · intro left right first second plain plainRight same
    rw [compares, Value.sameTerm_iff_meaning? first second plain plainRight] at same
    rw [compares, Value.sameTerm_iff_meaning? second first plainRight plain]
    obtain ⟨meaning, means, meansRight⟩ := same
    exact ⟨meaning, meansRight, means⟩
  · intro left middle right first second third plain plainMiddle plainRight same sameNext
    rw [compares, Value.sameTerm_iff_meaning? first second plain plainMiddle] at same
    rw [compares, Value.sameTerm_iff_meaning? second third plainMiddle plainRight] at sameNext
    rw [compares, Value.sameTerm_iff_meaning? first third plain plainRight]
    obtain ⟨meaning, means, meansMiddle⟩ := same
    obtain ⟨other, meansOther, meansRight⟩ := sameNext
    obtain rfl := Option.some.inj (meansMiddle.symm.trans meansOther)
    exact ⟨meaning, means, meansRight⟩
  · intro value wellFormed plain
    rw [compares, Value.sameTerm_iff_meaning? wellFormed wellFormed plain plain,
      ← Value.meaning?_eq_none_iff, ← ne_eq, Option.ne_none_iff_exists']
    exact exists_congr fun meaning => and_self_iff

/-- A bare identifier is the same as a node by way of a reference to it, and the other way round; an
object whose `@id` is null is not even the same as itself. -/
theorem compareValues_partialEquivalence_shapes :
    let compare := (jsonLd [] none).compareValues
    let bare : Value := .text "a"
    let reference : Value := Value.reference "a"
    let node : Value := .object [("@id", .text "a"), ("p", .list [.int 1])]
    let anonymous : Value := .object [("@id", .null)]
    compare bare reference = .ok true ∧ compare reference node = .ok true ∧
      compare bare node = .ok true ∧ compare node bare = .ok true ∧
      compare node node = .ok true ∧ compare anonymous anonymous = .ok false := by
  intro compare bare reference node anonymous
  obtain ⟨total, symm, trans, self⟩ := compareValues_partialEquivalence [] none
  have wellFormedNode : node.WellFormed := by
    simp [node, Value.WellFormed, Value.WellFormedMembers, Value.WellFormedItems, Entries.keys]
  have wellFormedReference : reference.WellFormed := by
    simp [reference, Value.reference, Value.WellFormed, Value.WellFormedMembers, Entries.keys]
  have wellFormedAnonymous : anonymous.WellFormed := by
    simp [anonymous, Value.WellFormed, Value.WellFormedMembers, Entries.keys]
  have first : compare bare reference = .ok true := rfl
  have second : compare reference node = .ok true := rfl
  have both : compare bare node = .ok true :=
    trans bare reference node trivial wellFormedReference wellFormedNode (.inl rfl) (.inl rfl)
      (.inl rfl) first second
  refine ⟨first, second, both,
    symm bare node trivial wellFormedNode (.inl rfl) (.inl rfl) both,
    (self node wellFormedNode (.inl rfl)).2 fun nameless => ?_, ?_⟩
  · rcases nameless.2.2 with absent | null
    · cases absent
    · cases null
  · have different : compare anonymous anonymous ≠ .ok true := fun same =>
      (self anonymous wellFormedAnonymous (.inl rfl)).1 same ⟨rfl, rfl, .inr rfl⟩
    obtain ⟨truth, answer⟩ := total anonymous anonymous
    cases truth with
    | true => exact absurd answer different
    | false => exact answer

end Accessor

end GraphPattern
