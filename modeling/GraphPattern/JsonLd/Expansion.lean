import GraphPattern.JsonLd.Draft
import GraphPattern.JsonLd.LocalContext

/-!
# Expanding documents

Expansion reads a document under a context, until every key is an identifier or
keyword and every value is spelled out. Each member of an object is read on its
own; what the members say is then put together in the order of their keys. What
stands at the top of a document or directly in a graph and says nothing about a
node is dropped there. What has no meaning expands to null, and a keyword's
scalars stay as they are.
-/

namespace GraphPattern.JsonLd

/-- What a text stands for, as a value. -/
def iriValue (iri : Option String) : Value := (iri.map Value.text).getD .null

/-- The reference to the node that a text names. -/
def reference (context : Context) (vocabulary : Bool) (text : String) : Except Problem Value := do
  return .object [("@id", iriValue (← context.expandIri vocabulary true text))]

/-- What the property around a value stands for. -/
def expandProperty (context : Context) (property : Option String) :
    Except Problem (Option String) :=
  match property with
  | some key => context.expandKey key
  | none => .ok none

/-- The value object of a scalar, with the type or language that the property gives. -/
def typedValue (context : Context) (property : Option String) (value : Value) : Value :=
  let type := (property.bind context.typeOf).filter fun name =>
    !(["@id", "@vocab", "@none"].contains name)
  match type, value with
  | some name, value => .object [("@type", .text name), ("@value", value)]
  | none, .text text =>
    match property.bind context.languageOf with
    | some language => .object [("@language", .text language), ("@value", .text text)]
    | none => .object [("@value", .text text)]
  | none, value => .object [("@value", value)]

/-- What a scalar expands to under a property that stands for an identifier or keyword. -/
def expandScalar (context : Context) (property iri : Option String) (value : Value) :
    Except Problem Value :=
  match property.bind context.typeOf, iri, value with
  | some "@id", _, .text text | _, some "@graph", .text text => reference context false text
  | some "@vocab", _, .text text => reference context true text
  | _, iri, value =>
    if iri.any isKeyword then .ok value else .ok (typedValue context property value)

/-- The value objects of a language map, in the order of the languages. -/
def expandLanguages (context : Context) (members : Entries Value) :
    Except Problem (List Value) := do
  let groups ← members.sorted.mapM fun (language, texts) => do
    let tagged ← texts.toList.mapM fun text =>
      match text with
      | .null => .ok []
      | .text chars => do
        let value := ("@value", Value.text chars)
        if (← context.expandKey language) == some "@none" then return [Value.object [value]]
        else return [Value.object [value, ("@language", .text (Text.lower language))]]
      | _ => .error Problem.invalidLanguage
    return tagged.flatten
  return groups.flatten

/-- Marks an item with the key that it has in an index, unless it has one. A text that speaks of an
index is left alone. -/
def indexed (key : String) : Value → Except Problem Value
  | .object members =>
    .ok (.object (if Entries.has members "@index" then members
      else Entries.put members "@index" (.text key)))
  | .text chars =>
    if Text.holds chars "@index" then .ok (.text chars) else .error .invalidIndex
  | _ => .error .invalidIndex

/-- Whether an object gives its types by a list: the first of its keys that stands for types
decides. -/
def typedByList (context : Context) (members : Entries Value) : Except Problem Bool := do
  let typed ← members.sorted.filterM fun entry => do
    return (← context.expandKey entry.1) == some "@type"
  return typed.head?.any fun entry => entry.2.isList

mutual

/-- Whether a value is a list that holds nothing but such lists. -/
def isHollow : Value → Bool
  | .list items => areHollow items
  | _ => false

/-- Whether all items are lists that hold nothing but such lists. -/
def areHollow : List Value → Bool
  | [] => true
  | item :: rest => isHollow item && areHollow rest

end

/-- What the value of a value object says. It is a scalar, and in place of none there may be an
empty list, unless the types are given by a list. -/
def expandValueMember (listedTypes : Bool) (value : Value) : Except Problem Part :=
  if listedTypes then .error .invalidValueObject
  else if value.isList || value.isObject then
    if isHollow value then .ok .nothing else .error .invalidValueObject
  else .ok (.plain value)

/-- What a type stands for. -/
def expandType (context : Context) : Value → Except Problem Value
  | .text type => (context.expandIri true true type).map iriValue
  | _ => .error .invalidType

/-- What a keyword with a plain value says, if the keyword is one of these. -/
def expandKeyword? (context : Context) (listedTypes : Bool) (keyword : String) (value : Value) :
    Option (Except Problem Part) :=
  match keyword, value with
  | "@id", .text text => some do
    return .plain (iriValue (← context.expandIri false true text))
  | "@id", _ => some (.error .invalidId)
  | "@type", .null => some (.ok (.types [.null]))
  | "@type", value => some do return .types (← value.toList.mapM (expandType context))
  | "@value", value => some (expandValueMember listedTypes value)
  | "@language", .null => some (.ok .nothing)
  | "@language", .text language => some (.ok (.plain (.text (Text.lower language))))
  | "@language", _ => some (.error .invalidLanguage)
  | "@index", .text index => some (.ok (.plain (.text index)))
  | "@index", _ => some (.error .invalidIndex)
  | _, _ => none

/-- What an object of reversed properties says. -/
def reversedPart : Value → Except Problem Part
  | .object members =>
    let lists (members : Entries Value) : Entries (List Value) :=
      members.map fun entry => (entry.1, entry.2.toList)
    let forward := match Entries.get? members "@reverse" with
      | some (.object entries) => lists entries
      | _ => []
    .ok (.reversed (lists (members.filter fun entry => entry.1 != "@reverse")) forward)
  | _ => .error .invalidReverse

/-- The property that the values of a member stand under: its key, but a list or set has those of
the property around it, unless it is a list directly in a graph. -/
def innerProperty (property around : Option String) (key iri : String) : Option String :=
  if iri == "@list" && around == some "@graph" then none
  else if iri == "@list" || iri == "@set" then property
  else some key

/-- What an expanded value adds to a property, as its term says. -/
def propertyPart (context : Context) (key iri : String) (expanded : Value) : Part :=
  let asList := iri != "@list" && !isListObject expanded &&
    (context.containers key).contains "@list"
  let items := if asList then [Value.object [("@list", .list expanded.toList)]]
    else expanded.toList
  if expanded.equal .null then .nothing
  else if (context.definition? key).any TermDefinition.isReverse then .backward items
  else .forward items

mutual

/-- Expands a value under a property, perhaps within a list. -/
def expand (context : Context) (property : Option String) (inList : Bool) (value : Value) :
    Except Problem Value :=
  match value with
  | .null => .ok .null
  | .list items => do
    let inList := inList || (property.any fun key => (context.containers key).contains "@list")
    return .list (← expandItems context property inList items)
  | .object members => do
    let iri ← expandProperty context property
    let context ← match Entries.get? members "@context" with
      | some given => context.withEmbedded given
      | none => pure context
    let listedTypes ← typedByList context members
    let parts ← expandMembers context property iri listedTypes members
    let draft ← Draft.ofParts parts
    let grounded := inList || (property.isSome && iri != some "@graph")
    return dropFreeFloating grounded (← Draft.finish draft)
  | scalar => do
    let iri ← expandProperty context property
    if !inList && (property.isNone || iri == some "@graph") then return .null
    else expandScalar context property iri scalar
termination_by structural value

/-- Expands the items of a list in order. Within a list, a list in it stays a list. -/
def expandItems (context : Context) (property : Option String) (inList : Bool)
    (items : List Value) : Except Problem (List Value) :=
  match items with
  | [] => .ok []
  | item :: rest => do
    let expanded ← expand context property inList item
    let expanded :=
      if inList && expanded.isList then Value.object [("@list", expanded)] else expanded
    return expanded.spread ++ (← expandItems context property inList rest)
termination_by structural items

/-- Reads the members of an object under a property that stands for an identifier or keyword: for
each key, what it stands for and what the member says about that. -/
def expandMembers (context : Context) (property around : Option String) (listedTypes : Bool)
    (members : List (String × Value)) : Except Problem (List (String × String × Part)) :=
  match members with
  | [] => .ok []
  | (key, value) :: rest => do
    let later ← expandMembers context property around listedTypes rest
    if key == "@context" then return later
    match ← context.expandKey key with
    | none => return later
    | some iri =>
      if !isAbsolute iri && !isKeyword iri then return later
      if isKeyword iri && around == some "@reverse" then throw .invalidReverse
      if iri == "@graph" && !value.isObject && !value.isList then throw .invalidGraph
      match expandKeyword? context listedTypes iri value with
      | some part => return (key, iri, ← part) :: later
      | none =>
        if iri == "@reverse" then
          if !value.isObject then throw .invalidReverse
          let expanded ← expand context (some "@reverse") false value
          return (key, iri, ← reversedPart expanded) :: later
        let containers := context.containers key
        let inner := innerProperty property around key iri
        let expanded ← match value with
          | .object entries =>
            if containers.contains "@language" then
              (expandLanguages context entries).map Value.list
            else if containers.contains "@index" then do
              let groups ← expandIndexed context key entries
              pure (.list ((Entries.sorted groups).flatMap Prod.snd))
            else expand context inner (iri == "@list") (.object entries)
          | value => expand context inner (iri == "@list") value
        return (key, iri, propertyPart context key iri expanded) :: later
termination_by structural members

/-- Expands the entries of an index, and marks their items with their keys. -/
def expandIndexed (context : Context) (property : String) (entries : List (String × Value)) :
    Except Problem (List (String × List Value)) :=
  match entries with
  | [] => .ok []
  | (key, value) :: rest => do
    let items := (← expand context (some property) false value).spread
    let unmarked := (← context.expandKey key) == some "@none"
    let marked ← if unmarked then pure items else items.mapM (indexed key)
    return (key, marked) :: (← expandIndexed context property rest)
termination_by structural entries

end

/-- The items of a whole document. A node that only holds a graph stands for the graph. -/
def expandDocument (context : Context) (document : Value) : Except Problem (List Value) := do
  match ← expand context none false document with
  | .object [("@graph", .list items)] => return items
  | expanded => return expanded.spread

end GraphPattern.JsonLd
