import GraphPattern.JsonLd.Iri
import GraphPattern.JsonLd.Problem
import GraphPattern.Value.Equality

/-!
# Expanded objects

An expanded object is put together from what the members of an object say, one
after the other, and is then classified. It is a value object, a list, a set or
a node; a set is only its items, and an object that says nothing is null. All
values of a property stand in a list.
-/

namespace GraphPattern

/-- The values that a value adds to a list: null adds none, and a list its items. -/
def Value.spread : Value → List Value
  | null => []
  | list items => items
  | value => [value]

namespace JsonLd

/-- Whether a value is a value object. -/
def isValueObject (value : Value) : Bool := (value.member? "@value").isSome

/-- Whether a value is a list object. -/
def isListObject (value : Value) : Bool := (value.member? "@list").isSome

/-- What one member of an object says about the identifier or keyword that its key stands for. -/
inductive Part where
  /-- Nothing. -/
  | nothing
  /-- A plain value. -/
  | plain (value : Value)
  /-- Types, each a text or null. -/
  | types (names : List Value)
  /-- The properties of an object of reversed properties, and those reversed twice. -/
  | reversed (backward forward : Entries (List Value))
  /-- The nodes that a reversed property leads from. -/
  | backward (items : List Value)
  /-- The values of a property. -/
  | forward (items : List Value)

/-- An expanded object that is being put together. -/
abbrev Draft := Entries Value

namespace Draft

/-- Adds values behind those that a name has already. -/
def addItems (draft : Draft) (name : String) (items : List Value) : Draft :=
  draft.put name (.list (((draft.get? name).map Value.toList).getD [] ++ items))

/-- Adds the values of many names. -/
def addAllItems (draft : Draft) (more : Entries (List Value)) : Draft :=
  more.foldl (fun draft entry => addItems draft entry.1 entry.2) draft

/-- Adds a type. A single one stands alone until there is another. -/
def addType (draft : Draft) (type : Value) : Draft :=
  match draft.get? "@type" with
  | none => draft.put "@type" type
  | some before => draft.put "@type" (.list (before.toList ++ [type]))

/-- Adds nodes that lead to the node; nothing else can. -/
def addReverse (draft : Draft) (more : Entries (List Value)) : Except Problem Draft :=
  let before := match draft.get? "@reverse" with
    | some (.object entries) => entries
    | _ => []
  if more.all fun entry => entry.2.all fun item => !isValueObject item && !isListObject item then
    .ok (draft.put "@reverse" (.object (addAllItems before more)))
  else .error .invalidReverse

/-- Adds what one member says. A keyword cannot be said twice, except for types and what is
included. -/
def add (draft : Draft) (iri : String) (part : Part) : Except Problem Draft :=
  if isKeyword iri && draft.has iri && !(["@included", "@type"].contains iri) then
    .error .collidingKeywords
  else match part with
    | .nothing => .ok draft
    | .plain value => .ok (draft.put iri value)
    | .types names => .ok (names.foldl addType draft)
    | .reversed backward forward =>
      let draft := draft.addAllItems forward
      if backward.isEmpty then .ok draft else draft.addReverse backward
    | .backward items => draft.addReverse (if items.isEmpty then [] else [(iri, items)])
    | .forward items => .ok (draft.addItems iri items)

/-- The draft of what the members of an object say, each with its key and with what that stands
for, in the order of the keys. -/
def ofParts (parts : Entries (String × Part)) : Except Problem Draft :=
  parts.sorted.foldlM (fun draft entry => draft.add entry.2.1 entry.2.2) []

/-- Whether a type of a value object is one that a value can have. -/
def isValueType : Value → Bool
  | .text iri => isNamed iri
  | _ => false

/-- The value object of a draft with a value; without its null type, and null if its value is. -/
def valueObject (draft : Draft) (value : Value) : Except Problem Value := do
  let draft : Draft := draft.filter fun entry => !(entry.1 == "@type" && entry.2.equal .null)
  let types := ((draft.get? "@type").map Value.toList).getD []
  if draft.has "@type" && draft.has "@language" then throw .invalidValueObject
  if !draft.keys.all ["@value", "@type", "@language", "@index"].contains then
    throw .invalidValueObject
  if value.equal .null then return .null
  if draft.has "@language" && value.text?.isNone then throw .invalidLanguage
  if !types.all isValueType then throw .invalidType
  return .object draft

/-- What the whole object is. With a type it is a node or list whatever else it holds. -/
def finish (draft : Draft) : Except Problem Value :=
  match draft.get? "@value", draft.get? "@type" with
  | some value, _ => draft.valueObject value
  | none, some .null => .error .invalidType
  | none, some types => .ok (.object (draft.put "@type" (.list types.toList)))
  | none, none =>
    let crowded := draft.length > 1 && !(draft.length == 2 && draft.has "@index")
    match draft.get? "@set", draft.has "@list" with
    | some items, _ => if crowded then .error .invalidSetOrList else .ok items
    | none, true => if crowded then .error .invalidSetOrList else .ok (.object draft)
    | none, false =>
      if draft.length == 1 && draft.has "@language" then .ok .null else .ok (.object draft)

end Draft

/-- Whether an object says nothing about a node where only nodes count. -/
def isFreeFloating (members : Entries Value) : Bool :=
  members.isEmpty || members.has "@value" || members.has "@list" ||
    (members.length == 1 && members.has "@id")

/-- Drops an object that says nothing about a node, if there is no property and no list around. -/
def dropFreeFloating (grounded : Bool) : Value → Value
  | .object members => if !grounded && isFreeFloating members then .null else .object members
  | other => other

end JsonLd

end GraphPattern
