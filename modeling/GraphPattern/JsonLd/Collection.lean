import GraphPattern.JsonLd.NodeMap

/-!
# Collecting nodes

The nodes of an expanded document, scattered and nested, are collected into one
map. A node that is met twice is merged, a nested node leaves a reference, and
values that are already there are not added again, except lists. The members of
a node are gone through in the order of their names. Blank nodes get new labels
in the order in which they are met.
-/

namespace GraphPattern.JsonLd

/-- Work on the collected nodes that may fail. -/
abbrev Collecting := StateT NodeMap (Except Problem)

/-- A new label for a blank node without one. -/
def newLabel : Collecting String := do
  let map ← get
  set { map with issued := map.issued + 1 }
  return map.freshLabel

/-- The identifier to use for another: blank labels are renewed. -/
def rename (id : String) : Collecting String := do
  if !isBlankLabel id then return id
  let map ← get
  match map.labels.get? id with
  | some known => return known
  | none =>
    set { map with issued := map.issued + 1, labels := map.labels.put id map.freshLabel }
    return map.freshLabel

/-- The identifier to use for a node. -/
def nameNode : (id : Option Value) → Collecting (Option String)
  | none => return some (← newLabel)
  | some (.text id) => return some (← rename id)
  | some _ => return none

/-- The renewed type of a node. -/
def renameType : Value → Collecting Value
  | .text type => return .text (← rename type)
  | other => throw (.notText other)

/-- The types of an expanded object. -/
def typesOf (members : Entries Value) : List Value :=
  ((members.get? "@type").map Value.toList).getD []

/-- Checks that the type of a value object is a text, if there is one. -/
def checkValueType (members : Entries Value) : Collecting Unit :=
  match members.get? "@type" with
  | none | some (.text _) => return ()
  | some other => throw (.notText other)

/-- Writes a keyword that a node keeps. A node has one index, and is told it once. -/
def keepKeyword (graph name : Option String) (key : String) (value : Value) : Collecting Unit := do
  let members := (← get).members graph name
  match (if key == "@index" then members.get? key else none) with
  | some before =>
    throw (if before.equal value then .repeatedIndex else .conflictingIndexes members)
  | none => modify fun map => map.setMembers graph name (members.put key value)

/-- Where a part of a document is met. -/
inductive Place where
  /-- At the top of a graph. -/
  | top
  /-- As an item of a list. -/
  | item
  /-- As a value of a node. -/
  | value (node : Option String) (property : String)
  /-- As a node that leads to another one. -/
  | referrer (node : Option String) (property : String)

/-- Gives a value to the node that it is met at, unless that node's identifier stands for
nothing. -/
def Place.give (graph : Option String) (place : Place) (repeats : Bool) (value : Value) :
    Collecting Unit :=
  match place with
  | .value (some node) property =>
    modify fun map => map.addValue graph (some node) property repeats value
  | _ => return ()

/-- Makes a node that has been met refer, or be referred to, as its place demands. -/
def Place.connect (graph : Option String) (place : Place) (name : Option String) :
    Collecting Unit :=
  match place with
  | .referrer node property =>
    modify fun map => map.addValue graph name property false (referenceTo node)
  | place => place.give graph false (referenceTo name)

mutual

/-- Collects a part of a document, and gives what a list holds in its place. -/
def collect (graph : Option String) (place : Place) (value : Value) : Collecting (List Value) :=
  match value with
  | .list items => collectItems graph place items
  | .object members =>
    if Entries.has members "@value" then do
      checkValueType members
      place.give graph false (.object members)
      return [.object members]
    else do
      (typesOf members).forM fun type => discard (renameType type)
      if Entries.has members "@list" then do
        let value := Value.object [("@list", .list (← collectListed graph members))]
        place.give graph true value
        return [value]
      else do
        let name ← nameNode (Entries.get? members "@id")
        modify fun map => map.withNode graph name
        place.connect graph name
        (Entries.sorted (collectMembers graph name members)).forM Prod.snd
        return [referenceTo name]
  | scalar => return [scalar]
termination_by structural value

/-- Collects items one after the other. -/
def collectItems (graph : Option String) (place : Place) (items : List Value) :
    Collecting (List Value) :=
  match items with
  | [] => return []
  | item :: rest => do
    let first ← collect graph place item
    return first ++ (← collectItems graph place rest)
termination_by structural items

/-- Collects the items of a list object. -/
def collectListed (graph : Option String) (members : List (String × Value)) :
    Collecting (List Value) :=
  match members with
  | [] => return []
  | (key, value) :: rest =>
    if key == "@list" then collect graph .item value else collectListed graph rest
termination_by structural members

/-- The work that each member of a node is, by name. -/
def collectMembers (graph name : Option String) (members : List (String × Value)) :
    List (String × Collecting Unit) :=
  match members with
  | [] => []
  | (key, value) :: rest =>
    let work : Collecting Unit :=
      match key, value with
      | "@id", _ => return ()
      | "@type", types =>
        types.toList.forM fun type => do
          let type ← renameType type
          modify fun map => map.addValue graph name "@type" false type
      | "@reverse", .object entries => collectReferrers graph name entries
      | "@graph", inner => do
        modify fun map => map.withGraph name
        discard (collect name .top inner)
      | key, .list items =>
        if isKeyword key then keepKeyword graph name key (.list items)
        else do
          let property ← rename key
          if items.isEmpty then modify fun map => map.withProperty graph name property
          discard (collectItems graph (.value name property) items)
      | key, value => keepKeyword graph name key value
    (key, work) :: collectMembers graph name rest
termination_by structural members

/-- Collects the nodes that lead to a node, property by property. -/
def collectReferrers (graph name : Option String) (entries : List (String × Value)) :
    Collecting Unit :=
  match entries with
  | [] => return ()
  | (property, referrers) :: rest => do
    discard (collect graph (.referrer name property) referrers)
    collectReferrers graph name rest
termination_by structural entries

end

/-- The flattened nodes of an expanded document. -/
def flattenItems (items : List Value) : Except Problem (List Value) := do
  let (_, map) ← (collectItems defaultGraph .top items).run .empty
  map.flattened

end GraphPattern.JsonLd
