import GraphPattern.Comparison
import GraphPattern.JsonLd.Iri
import GraphPattern.JsonLd.Problem

/-!
# Collected nodes

The nodes of a document are kept in one map for every graph, under their
identifiers and in the order in which they were met. An identifier that stands
for nothing names a node as well. At the end, the nodes of the named graphs are
put into the nodes of their names, and whatever says nothing is left out.
-/

namespace GraphPattern.JsonLd

/-- What is kept under identifiers, in the order in which they were met. -/
abbrev Identified (α : Type) := List (Option String × α)

namespace Identified

variable {α : Type}

/-- What is kept under an identifier, if it was met. -/
def get? (entries : Identified α) (id : Option String) : Option α :=
  match entries with
  | [] => none
  | (name, value) :: rest => if name = id then some value else get? rest id

/-- Writes what is kept under an identifier: in its place if it was met before, else at the end. -/
def put (entries : Identified α) (id : Option String) (value : α) : Identified α :=
  match entries with
  | [] => [(id, value)]
  | (name, old) :: rest =>
    if name = id then (name, value) :: rest else (name, old) :: put rest id value

/-- Checks that identifiers can be put in order. One that stands for nothing has no place beside
others, whether it was met first or later. -/
def checkOrder (entries : Identified α) : Except Problem Unit :=
  match entries with
  | [] | [_] => .ok ()
  | (none, _) :: _ => .error (.unordered (.text "") .null)
  | (some _, _) :: rest =>
    if rest.any fun entry => entry.1.isNone then .error (.unordered .null (.text ""))
    else .ok ()

/-- What is kept, in the order of the identifiers. -/
def sorted (entries : Identified α) : Except Problem (List α) := do
  checkOrder entries
  return (Entries.sorted (entries.map fun entry => (entry.1.getD "", entry.2))).map Prod.snd

end Identified

/-- The value that an identifier is in a document. -/
def idValue (id : Option String) : Value := (id.map Value.text).getD .null

/-- The reference to a node. -/
def referenceTo (id : Option String) : Value := .object [("@id", idValue id)]

/-- The nodes of a graph, each with its members. -/
abbrev GraphNodes := Identified (Entries Value)

/-- The name of the graph that has none. -/
def defaultGraph : Option String := some "@default"

/-- Collected nodes. -/
structure NodeMap where
  /-- The graphs by name. -/
  graphs : Identified GraphNodes
  /-- The new labels of the labels met before. -/
  labels : Entries String
  /-- The number of labels given out. -/
  issued : Nat

namespace NodeMap

/-- No nodes and no labels. -/
def empty : NodeMap := ⟨[(defaultGraph, [])], [], 0⟩

/-- The next new label. -/
def freshLabel (map : NodeMap) : String := "_:b" ++ toString map.issued

/-- The nodes of a graph. -/
def graph (map : NodeMap) (name : Option String) : GraphNodes := (map.graphs.get? name).getD []

/-- The members of a node. -/
def members (map : NodeMap) (graph id : Option String) : Entries Value :=
  ((map.graph graph).get? id).getD [("@id", idValue id)]

/-- Writes the members of a node. -/
def setMembers (map : NodeMap) (graph id : Option String) (members : Entries Value) : NodeMap :=
  { map with graphs := map.graphs.put graph ((map.graph graph).put id members) }

/-- Makes sure that there is a graph of a name. -/
def withGraph (map : NodeMap) (name : Option String) : NodeMap :=
  { map with graphs := map.graphs.put name (map.graph name) }

/-- Makes sure that a graph has a node. -/
def withNode (map : NodeMap) (graph id : Option String) : NodeMap :=
  map.setMembers graph id (map.members graph id)

/-- Adds a value to a property of a node. Unless repeats are wanted, a value that is there already
is not added. -/
def addValue (map : NodeMap) (graph id : Option String) (property : String) (repeats : Bool)
    (value : Value) : NodeMap :=
  let members := map.members graph id
  let values := ((members.get? property).map Value.toList).getD []
  if !repeats && values.any value.sameInDocument then map
  else map.setMembers graph id (members.put property (.list (values ++ [value])))

/-- Makes sure that a node has a property, if only without values. -/
def withProperty (map : NodeMap) (graph id : Option String) (property : String) : NodeMap :=
  let members := map.members graph id
  if members.has property then map
  else map.setMembers graph id (members.put property (.list []))

end NodeMap

/-- Whether a node has members besides its identifier. -/
def saysSomething (members : Entries Value) : Bool :=
  !(members.length == 1 && members.has "@id")

/-- The nodes of a graph that say something, in the order of their identifiers. -/
def listed (nodes : GraphNodes) : Except Problem (List Value) := do
  return ((← nodes.sorted).filter saysSomething).map Value.object

/-- Puts the nodes of a named graph into the node of its name. -/
def addGraph (nodes : GraphNodes) (graph : Option String × GraphNodes) :
    Except Problem GraphNodes := do
  let (name, inner) := graph
  let members := (nodes.get? name).getD [("@id", idValue name)]
  let before := ((members.get? "@graph").map Value.toList).getD []
  return nodes.put name (members.put "@graph" (.list (before ++ (← listed inner))))

/-- The nodes of all graphs as one list: those of a named graph stand in the node of its name. -/
def NodeMap.flattened (map : NodeMap) : Except Problem (List Value) := do
  let named := map.graphs.filter fun entry => entry.1 != defaultGraph
  listed (← named.foldlM addGraph (map.graph defaultGraph))

end GraphPattern.JsonLd
