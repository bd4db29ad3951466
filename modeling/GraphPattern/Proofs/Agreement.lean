import GraphPattern.Proofs.Answering

/-!
# The answers about a node agree

There are three questions about a node and a predicate: what its values are,
whether there are any, and whether a given value is among them. Each is answered
in its own way. A value is looked for twice, as documents compare values and as
the accessor does, and only the first look opens an object with `@list`.

What stands in the place of a node may be any value. An object answers every
question. Any other value refuses a predicate that occurs in it, and a scalar
refuses all, since nothing can be looked for in it; what refuses one of the
questions refuses the others too.

Main statement: either all three questions are refused or all are answered, and
then the answers agree.
-/

namespace GraphPattern

namespace Node

/-- Whether a value that stands for a node refuses a predicate. -/
def refuses (node : Value) (predicate : String) : Bool :=
  match node with
  | .object _ => false
  | .text chars => Text.holds chars predicate
  | .list items => items.any fun item => item.equal (.text predicate)
  | _ => true

/-- Only what is no object refuses a predicate. -/
theorem identifier_of_refuses {node : Value} {predicate : String}
    (refused : refuses node predicate = true) : identifier node = .null := by
  cases node with
  | object members => cases refused
  | _ => rfl

/-- Neither the values of a refused predicate nor what is stored under it can be looked for, and
this is not for want of a place in a list. -/
theorem misread_of_refuses {node : Value} {predicate : String}
    (refused : refuses node predicate = true) :
    (∃ misreading, values node (.text predicate) = .error misreading ∧ misreading ≠ .outside) ∧
      ∃ misreading, stored? node (.text predicate) = .error misreading ∧
        misreading ≠ .outside := by
  cases node with
  | object members => cases refused
  | text chars =>
    exact ⟨⟨.noMembers _, if_pos refused, nofun⟩, ⟨.notPlace _ _, if_pos refused, nofun⟩⟩
  | list items =>
    exact ⟨⟨.noMembers _, if_pos refused, nofun⟩, ⟨.notPlace _ _, if_pos refused, nofun⟩⟩
  | null | bool _ | int _ | double _ =>
    exact ⟨⟨.holdsNothing _, rfl, nofun⟩, ⟨.holdsNothing _, rfl, nofun⟩⟩

/-- A predicate that is not refused is read like a name that an object has or lacks. -/
theorem read_of_not_refuses {node : Value} {predicate : String}
    (answered : refuses node predicate = false) :
    values node (.text predicate) = .ok (valuesOf node predicate) ∧
      stored? node (.text predicate) = .ok (node.member? predicate) := by
  cases node with
  | object members => exact ⟨rfl, rfl⟩
  | text chars =>
    exact ⟨if_neg (Bool.eq_false_iff.1 answered), if_neg (Bool.eq_false_iff.1 answered)⟩
  | list items =>
    exact ⟨if_neg (Bool.eq_false_iff.1 answered), if_neg (Bool.eq_false_iff.1 answered)⟩
  | null | bool _ | int _ | double _ => cases answered

/-- What stands for no value offers none. -/
theorem offers_iff (stored : Value) : offers stored = true ↔ stored.toList ≠ [] := by
  cases stored with
  | list items =>
    show (!items.isEmpty) = true ↔ items ≠ []
    rw [Bool.not_eq_true', List.isEmpty_eq_false_iff]
  | _ => simp [offers, Value.toList]

/-- What is among stored values is among some. -/
theorem offers_of_isAmong {value stored : Value} (among : isAmong value stored = true) :
    offers stored = true := by
  cases stored with
  | list items =>
    cases items with
    | nil => cases among
    | cons item rest => rfl
  | _ => rfl

/-- What is among stored values that need no opening is the same as one of them in a document. -/
theorem exists_of_isAmong {value stored : Value} (closed : stored.member? "@list" = none)
    (among : isAmong value stored = true) :
    ∃ candidate ∈ stored.toList, value.sameInDocument candidate = true := by
  rw [isAmong, opened, closed] at among
  cases stored with
  | list items => exact List.any_eq_true.1 among
  | _ =>
    rw [Bool.and_eq_true] at among
    exact ⟨_, List.mem_singleton_self _, among.2⟩

end Node

namespace Accessor

/-- A reading that fails as accessors do, about a predicate of what has no identifier. -/
def Refused (predicate : String) {α : Type} (reading : Except Error α) : Prop :=
  ∃ message, reading = .error (.access ⟨message, .null, some (.text predicate)⟩)

/-- A misreading of a refused predicate is told as a failure of access. -/
theorem refused_of_misreading {α : Type} (tried : String) {node : Value} {predicate : String}
    (refused : Node.refuses node predicate = true) {reading : Except Node.Misreading α}
    {misreading : Node.Misreading} (failed : reading = .error misreading)
    (inside : misreading ≠ .outside) :
    Refused predicate (answer tried node (.text predicate) reading) := by
  rw [Refused, ← Node.identifier_of_refuses refused, failed]
  cases misreading with
  | outside => exact absurd rfl inside
  | _ => exact ⟨_, rfl⟩

/-- What goes on from a refused reading is refused. -/
theorem Refused.bind {α β : Type} {predicate : String} {reading : Except Error α}
    (refused : Refused predicate reading) (next : α → Except Error β) :
    Refused predicate (reading >>= next) := by
  obtain ⟨message, failed⟩ := refused
  exact ⟨message, by rw [failed]; rfl⟩

/-- A refused predicate is refused by all three questions. -/
theorem refused_of_refuses {node : Value} {predicate : String}
    (refused : Node.refuses node predicate = true)
    (flatten : Value → Option Value → Except Error (List Value)) (compare : EqualityTest) :
    let accessor := reading flatten compare
    Refused predicate (accessor.getValues node (.text predicate)) ∧
      Refused predicate (accessor.hasProperty node (.text predicate)) ∧
      ∀ value, Refused predicate (accessor.hasValue node (.text predicate) value) := by
  obtain ⟨⟨valueless, values, listed⟩, ⟨storeless, stored, inside⟩⟩ :=
    Node.misread_of_refuses refused
  have present : Node.hasPredicate node (.text predicate) = .error storeless := by
    rw [Node.hasPredicate, stored]
    rfl
  have among : ∀ value, Node.hasInDocument node (.text predicate) value = .error storeless := by
    intro value
    rw [Node.hasInDocument, stored]
    rfl
  exact ⟨refused_of_misreading _ refused values listed,
    refused_of_misreading _ refused present inside,
    fun value => (refused_of_misreading _ refused (among value) inside).bind _⟩

/-- A predicate that is not refused is read by all three questions. -/
theorem answers_of_not_refuses {node : Value} {predicate : String}
    (answered : Node.refuses node predicate = false)
    (flatten : Value → Option Value → Except Error (List Value)) (same : Value → Value → Bool) :
    let accessor := reading flatten fun first second => .ok (same first second)
    accessor.getValues node (.text predicate) = .ok ((read same).values node predicate) ∧
      accessor.hasProperty node (.text predicate) = .ok ((read same).hasProperty node predicate) ∧
      ∀ value, accessor.hasValue node (.text predicate) value =
        .ok ((read same).hasValue node predicate value) := by
  obtain ⟨values, stored⟩ := Node.read_of_not_refuses answered
  refine ⟨?_, ?_, fun value => ?_⟩
  · show answer _ _ _ (Node.values node (.text predicate)) = _
    rw [values]
    rfl
  · show answer _ _ _ (Node.hasPredicate node (.text predicate)) = _
    rw [Node.hasPredicate, stored]
    rfl
  · show (do
      if ← answer _ _ _ (Node.hasInDocument node (.text predicate) value) then _
      else
        let candidates ← answer _ _ _ (Node.values node (.text predicate))
        anyOf (fun item => .ok (same value item)) candidates) = _
    rw [Node.hasInDocument, stored, values]
    exact found_or_anyOf_ok _ (same value) (Node.valuesOf node predicate)

variable {same : Value → Value → Bool} {node value : Value} {predicate : String}

/-- A predicate is present exactly if it has values. -/
theorem hasProperty_read_iff : (read same).hasProperty node predicate = true ↔
    (read same).values node predicate ≠ [] := by
  show (node.member? predicate).any Node.offers = true ↔ Node.valuesOf node predicate ≠ []
  rw [Node.valuesOf]
  cases node.member? predicate with
  | none => exact ⟨nofun, fun listed => absurd rfl listed⟩
  | some stored => exact Node.offers_iff stored

/-- Only a predicate that is present has a value. -/
theorem hasProperty_of_hasValue_read
    (found : (read same).hasValue node predicate value = true) :
    (read same).hasProperty node predicate = true := by
  obtain among | compared := Bool.or_eq_true_iff.1 found
  · obtain ⟨stored, under, among⟩ := (Option.any_eq_true _ _).1 among
    exact (Option.any_eq_true _ _).2 ⟨stored, under, Node.offers_of_isAmong among⟩
  · obtain ⟨candidate, isValue, _⟩ := List.any_eq_true.1 compared
    exact hasProperty_read_iff.2 (List.ne_nil_of_mem isValue)

/-- Where nothing is opened, a value is found exactly if it is the same as one of the values, as
long as values that are the same in a document are the same. -/
theorem hasValue_read_iff
    (document : ∀ first second : Value, first.sameInDocument second = true →
      same first second = true)
    (closed : ∀ stored, node.member? predicate = some stored → stored.member? "@list" = none) :
    (read same).hasValue node predicate value = true ↔
      ∃ candidate ∈ (read same).values node predicate, same value candidate = true := by
  refine Bool.or_eq_true_iff.trans ⟨?_, fun compared => .inr (List.any_eq_true.2 compared)⟩
  rintro (among | compared)
  · obtain ⟨stored, under, among⟩ := (Option.any_eq_true _ _).1 among
    obtain ⟨candidate, isValue, said⟩ := Node.exists_of_isAmong (closed stored under) among
    refine ⟨candidate, ?_, document _ _ said⟩
    show candidate ∈ Node.valuesOf node predicate
    rw [Node.valuesOf, under]
    exact isValue
  · exact List.any_eq_true.1 compared

/-- All questions about a node and a predicate are refused, or all are answered and the answers
agree. What is refused is a predicate that occurs in what is no object or is asked of a scalar,
and the refusal is a failure of access that names it. Otherwise the values are those that the node
has as an object, if it is one. A predicate is present exactly if it has values, and only what is
present has a given value. Unless an object with `@list` is stored under the predicate, a value is
found exactly if it is the same as one of the values. -/
theorem readings_agree (documents : Entries Value) (base : Option String) (node : Value)
    (predicate : String) :
    let accessor := jsonLd documents base
    (Node.refuses node predicate = true ∧
      Refused predicate (accessor.getValues node (.text predicate)) ∧
      Refused predicate (accessor.hasProperty node (.text predicate)) ∧
      ∀ value, Refused predicate (accessor.hasValue node (.text predicate) value)) ∨
    (Node.refuses node predicate = false ∧
      ∃ (values : List Value) (present : Bool) (found : Value → Bool),
        accessor.getValues node (.text predicate) = .ok values ∧
        accessor.hasProperty node (.text predicate) = .ok present ∧
        (∀ value, accessor.hasValue node (.text predicate) value = .ok (found value)) ∧
        values = Node.valuesOf node predicate ∧
        (present = true ↔ values ≠ []) ∧
        (∀ value, found value = true → present = true) ∧
        ((∀ stored, node.member? predicate = some stored → stored.member? "@list" = none) →
          ∀ value, found value = true ↔
            ∃ candidate ∈ values, accessor.compareValues value candidate = .ok true)) := by
  intro accessor
  cases decided : Node.refuses node predicate with
  | true => exact .inl ⟨rfl, refused_of_refuses decided _ _⟩
  | false =>
    obtain ⟨values, present, found⟩ :=
      answers_of_not_refuses decided (flattenJsonLd documents base) Value.sameTerm
    refine .inr ⟨rfl, _, _, _, values, present, found, rfl, hasProperty_read_iff,
      fun value => hasProperty_of_hasValue_read, fun closed value => ?_⟩
    have document : ∀ first second : Value, first.sameInDocument second = true →
        first.sameTerm second = true :=
      fun _ _ said => Bool.or_eq_true_iff.2 (.inl said)
    rw [hasValue_read_iff document closed]
    show _ ↔ ∃ candidate ∈ _, Except.ok (value.sameTerm candidate) = .ok true
    simp only [Except.ok.injEq]

/-- What `@list` holds is found, and is not the same as the object that is the only value. -/
example :
    let stored := Value.object [("@list", .list [.int 1])]
    let node := Value.object [("p", stored)]
    static.hasValue node (.text "p") (.int 1) = .ok true ∧
      static.getValues node (.text "p") = .ok [stored] ∧
      static.compareValues (.int 1) stored = .ok false :=
  ⟨rfl, rfl, rfl⟩

end Accessor

end GraphPattern
