import GraphPattern.Comparison

/-!
# Sameness with an identifier

Sameness of graph values is no equivalence, since an object that has both an
`@value` and an `@id` is the same as objects that are not the same as each
other. Values that are not of this kind are called plain. Among them sameness
respects identifiers: what is the same as a value that names an identifier
names it too.
-/

namespace GraphPattern

namespace Value

/-- A value is plain unless it is an object with both an `@value` and an `@id`. -/
def Plain (value : Value) : Prop := value.member? "@value" = none ∨ value.member? "@id" = none

/-- A reference to what an identifier names. -/
def reference (identifier : String) : Value := .object [("@id", .text identifier)]

/-- An identifier is named by the bare text and by objects without `@value` that have it as their
`@id`. -/
theorem identifierOf_eq_some_iff (value : Value) (identifier : String) :
    identifierOf value = some identifier ↔
      value = .text identifier ∨
        value.member? "@value" = none ∧ value.member? "@id" = some (.text identifier) := by
  cases value with
  | text chars => simp [identifierOf, member?]
  | object members =>
    show (if (Entries.get? members "@value").isSome then none
      else (Entries.get? members "@id").bind text?) = _ ↔ _
    have never : Value.object members ≠ .text identifier := by
      intro same
      cases same
    cases held : Entries.get? members "@value" with
    | some value => simp [member?, held]
    | none =>
      simp only [member?, held, Option.isSome_none, Bool.false_eq_true, if_false, never, false_or,
        true_and]
      cases named : Entries.get? members "@id" with
      | none => simp
      | some name => cases name <;> simp [text?]
  | _ => simp [identifierOf, member?]

/-- A reference names its identifier. -/
@[simp] theorem identifierOf_reference (identifier : String) :
    identifierOf (reference identifier) = some identifier :=
  (identifierOf_eq_some_iff _ _).2 (.inr ⟨rfl, rfl⟩)

/-- Texts are plain. -/
theorem plain_text (chars : String) : Plain (.text chars) := .inl rfl

/-- Only a text equals itself. -/
theorem equal_text_iff (value : Value) (chars : String) :
    value.equal (.text chars) = true ↔ value = .text chars := by
  cases value with
  | text others => simp [equal]
  | _ => simp [equal, magnitude?]

/-- A text equals only itself. -/
theorem text_equal_iff (chars : String) (value : Value) :
    (Value.text chars).equal value = true ↔ value = .text chars := by
  cases value with
  | text others =>
    rw [equal_text_iff]
    exact eq_comm
  | _ => simp [equal, magnitude?]

/-- Values that name one identifier are the same. -/
theorem sameTerm_of_identifierOf {left right : Value} {identifier : String}
    (first : identifierOf left = some identifier) (second : identifierOf right = some identifier) :
    left.sameTerm right = true := by
  have same : left.sameIdentifier right = true := by
    rw [sameIdentifier, first]
    exact beq_iff_eq.2 second
  rw [sameTerm, same, Bool.or_true]

/-- What names an identifier has no `@value`. -/
theorem unvalued_of_identifierOf {value : Value} {identifier : String}
    (named : identifierOf value = some identifier) : value.member? "@value" = none := by
  rcases (identifierOf_eq_some_iff value identifier).1 named with rfl | ⟨unvalued, _⟩
  · rfl
  · exact unvalued

/-- Of two values that are the same as nodes, one has a text as its `@id` if the other does. -/
theorem member_id_of_sameNode {left right : Value} {identifier : String}
    (same : left.sameNode right = true) :
    left.member? "@id" = some (.text identifier) ↔
      right.member? "@id" = some (.text identifier) := by
  unfold sameNode at same
  cases first : left.member? "@id" with
  | none =>
    rw [first] at same
    cases same
  | some name =>
    cases second : right.member? "@id" with
    | none =>
      rw [first, second] at same
      cases name <;> cases same
    | some other =>
      rw [first, second] at same
      rw [Option.some.injEq, Option.some.injEq]
      constructor
      · rintro rfl
        exact (text_equal_iff identifier other).1 same
      · rintro rfl
        cases name with
        | null => cases same
        | _ => exact (equal_text_iff _ identifier).1 same

/-- Values that are the same in a document, not both value objects, are the same as nodes, or
neither of them is an object and they are equal. -/
theorem sameInDocument_cases {left right : Value} (same : left.sameInDocument right = true)
    (unvalued : left.member? "@value" = none ∨ right.member? "@value" = none) :
    left.sameNode right = true ∨ left.isObject = false ∧ right.isObject = false ∧
      left.strictlyEqual right = true := by
  unfold sameInDocument at same
  by_cases object : (left.isObject || right.isObject) = true
  · rw [if_pos object] at same
    left
    rcases unvalued with absent | absent
    · rw [absent] at same
      exact same
    · rw [absent] at same
      cases held : left.member? "@value" <;> (rw [held] at same; exact same)
  · rw [if_neg object] at same
    rw [Bool.not_eq_true, Bool.or_eq_false_iff] at object
    exact .inr ⟨object.1, object.2, same⟩

/-- Only objects are the same as nodes. -/
theorem isObject_of_sameNode {left right : Value} (same : left.sameNode right = true) :
    left.isObject = true ∧ right.isObject = true := by
  unfold sameNode at same
  cases left with
  | object members =>
    cases right with
    | object others => exact ⟨rfl, rfl⟩
    | _ =>
      cases held : (Value.object members).member? "@id" with
      | none =>
        rw [held] at same
        cases same
      | some name =>
        rw [held] at same
        cases name <;> cases same
  | _ => cases same

/-- An object that names an identifier has it as its `@id`. -/
theorem member_id_of_identifierOf {value : Value} {identifier : String}
    (object : value.isObject = true) (named : identifierOf value = some identifier) :
    value.member? "@id" = some (.text identifier) := by
  rcases (identifierOf_eq_some_iff value identifier).1 named with rfl | ⟨_, held⟩
  · cases object
  · exact held

/-- What is no object and names an identifier is the text. -/
theorem eq_text_of_identifierOf {value : Value} {identifier : String}
    (scalar : value.isObject = false) (named : identifierOf value = some identifier) :
    value = .text identifier := by
  rcases (identifierOf_eq_some_iff value identifier).1 named with same | ⟨_, held⟩
  · exact same
  · cases value with
    | object members => cases scalar
    | _ => cases held

/-- A plain value with a text as its `@id` names it. -/
theorem Plain.identifierOf_eq {value : Value} {identifier : String} (plain : value.Plain)
    (held : value.member? "@id" = some (.text identifier)) :
    identifierOf value = some identifier := by
  rcases plain with unvalued | unnamed
  · exact (identifierOf_eq_some_iff value identifier).2 (.inr ⟨unvalued, held⟩)
  · rw [unnamed] at held
    cases held

/-- Of two values that are strictly equal, one is a text if the other is. -/
theorem strictlyEqual_text {left right : Value} {identifier : String}
    (same : left.strictlyEqual right = true) :
    left = .text identifier ↔ right = .text identifier := by
  constructor
  · rintro rfl
    cases right with
    | bool truth => cases same
    | _ => exact (text_equal_iff identifier _).1 same
  · rintro rfl
    cases left with
    | bool truth => cases same
    | _ => exact (equal_text_iff _ identifier).1 same

/-- Sameness respects identifiers. Of two plain values that are the same, one names an
identifier if the other does. -/
theorem identifierOf_iff_of_sameTerm {left right : Value} (identifier : String)
    (first : left.Plain) (second : right.Plain) (same : left.sameTerm right = true) :
    identifierOf left = some identifier ↔ identifierOf right = some identifier := by
  rw [sameTerm, Bool.or_eq_true] at same
  rcases same with document | named
  · constructor
    · intro named
      rcases sameInDocument_cases document (.inl (unvalued_of_identifierOf named)) with
        nodes | ⟨scalar, _, equal⟩
      · have held := member_id_of_identifierOf (isObject_of_sameNode nodes).1 named
        exact second.identifierOf_eq ((member_id_of_sameNode nodes).1 held)
      · have text := eq_text_of_identifierOf scalar named
        rw [(strictlyEqual_text equal).1 text]
        rfl
    · intro named
      rcases sameInDocument_cases document (.inr (unvalued_of_identifierOf named)) with
        nodes | ⟨_, scalar, equal⟩
      · have held := member_id_of_identifierOf (isObject_of_sameNode nodes).2 named
        exact first.identifierOf_eq ((member_id_of_sameNode nodes).2 held)
      · have text := eq_text_of_identifierOf scalar named
        rw [(strictlyEqual_text equal).2 text]
        rfl
  · unfold sameIdentifier at named
    cases leftNamed : identifierOf left with
    | none =>
      rw [leftNamed] at named
      cases named
    | some other =>
      rw [leftNamed] at named
      rw [eq_of_beq named]

/-- A plain value is the same as another plain value that names an identifier exactly if it names
the identifier itself. -/
theorem sameTerm_iff_of_identifierOf {left right : Value} {identifier : String}
    (first : left.Plain) (second : right.Plain) (named : identifierOf left = some identifier) :
    left.sameTerm right = true ↔ identifierOf right = some identifier :=
  ⟨fun same => (identifierOf_iff_of_sameTerm identifier first second same).1 named,
    sameTerm_of_identifierOf named⟩

/-- An object with nothing but an `@id` is the same as a reference exactly if it is that
reference. -/
theorem sameTerm_reference_iff (value : Value) (identifier : String) :
    (object [("@id", value)]).sameTerm (reference identifier) = true ↔
      value = .text identifier := by
  constructor
  · intro same
    have named := (identifierOf_iff_of_sameTerm identifier (.inl rfl) (.inl rfl) same).2
      (identifierOf_reference identifier)
    exact Option.some.inj (member_id_of_identifierOf rfl named)
  · rintro rfl
    exact sameTerm_of_identifierOf (identifierOf_reference _) (identifierOf_reference _)

/-- A reference is the same as an object with nothing but an `@id` exactly if that is this
reference. -/
theorem reference_sameTerm_iff (identifier : String) (value : Value) :
    (reference identifier).sameTerm (object [("@id", value)]) = true ↔
      value = .text identifier := by
  constructor
  · intro same
    have named := (identifierOf_iff_of_sameTerm identifier (.inl rfl) (.inl rfl) same).1
      (identifierOf_reference identifier)
    exact Option.some.inj (member_id_of_identifierOf rfl named)
  · rintro rfl
    exact sameTerm_of_identifierOf (identifierOf_reference _) (identifierOf_reference _)

end Value

end GraphPattern
