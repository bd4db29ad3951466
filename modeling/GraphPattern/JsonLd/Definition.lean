import GraphPattern.JsonLd.Context
import GraphPattern.Text.LetterCase

/-!
# Defining terms

A context is built term by term. A term may be defined through other terms of
the same context, which are then defined first. A term that is asked for again
while its own definition is under way is circular, and so is one whose
definition was passed over before.
-/

namespace GraphPattern.JsonLd

/-- A context under construction. -/
structure Construction where
  /-- The context so far. -/
  context : Context
  /-- The terms whose definition has begun. -/
  begun : List String
  /-- The terms that are settled, and the keywords that set something else than a term. -/
  settled : List String

/-- Work on a context under construction that may fail. -/
abbrev Defining := StateT Construction (Except Problem)

/-- The work that makes sure that a term of the same context is defined. -/
abbrev Require := String → Defining Unit

/-- Notes that the definition of a term has begun. -/
def noteBegun (term : String) : Defining Unit :=
  modify fun construction => { construction with begun := term :: construction.begun }

/-- Notes that a term is settled. -/
def noteSettled (term : String) : Defining Unit :=
  modify fun construction => { construction with settled := term :: construction.settled }

/-- Changes the terms of the context. -/
def changeTerms (change : Entries TermDefinition → Entries TermDefinition) : Defining Unit :=
  modify fun construction => { construction with context :=
    { construction.context with terms := change construction.context.terms } }

/-- Takes the meaning from a term. -/
def undefine (term : String) : Defining Unit :=
  changeTerms fun terms => terms.filter fun entry => entry.1 != term

/-- Gives a term its meaning. -/
def giveMeaning (term : String) (meaning : TermDefinition) : Defining Unit :=
  changeTerms fun terms => terms.put term meaning

/-- The definition that a term has so far. -/
def meaningOf? (term : String) : Defining (Option TermDefinition) :=
  return (← get).context.definition? term

/-- The identifier that a text of a definition stands for. The terms that it needs are defined
before. -/
def expandWithin (require : Require) (text : String) : Defining (Option String) := do
  if !isKeyword text && !hasKeywordForm text then
    require text
    if (← meaningOf? text).isNone then
      match splitCompact? text with
      | some (start, rest) => if !standsAlone start rest then require start
      | none => pure ()
  (← get).context.expandIri true false text

/-- Whether a term looks like an identifier: on its first line there is a slash, or a colon with
something other than a colon behind it. -/
def hasIriForm : List Char → Bool
  | [] => false
  | '/' :: _ => true
  | ':' :: rest => rest.head?.any (· != ':') || hasIriForm rest
  | c :: rest => c != '\n' && hasIriForm rest

/-- Whether an identifier ends so that another part can follow, or is a blank node's label. -/
def canPrecede (iri : String) : Bool :=
  isBlankLabel iri ||
    (withoutFinalBreak iri.toList).getLast?.any [':', '/', '?', '#', '[', ']', '@'].contains

/-- What the identifier part of a definition comes to. -/
inductive IriMapping where
  /-- The term stands for an identifier or keyword, or for nothing. -/
  | mapped (iri : Option String) (isPrefix isReverse : Bool)
  /-- The definition is passed over. -/
  | ignored

/-- The identifier that a reversed term leads by. -/
def iriOfReverse (require : Require) : Value → Defining IriMapping
  | .text reverse => do
    if hasKeywordForm reverse then return .ignored
    match ← expandWithin require reverse with
    | some iri =>
      if isAbsolute iri then return .mapped (some iri) false true
      else throw .invalidIriMapping
    | none => throw .invalidIriMapping
  | _ => throw .invalidIriMapping

/-- Checks that a term that looks like an identifier does not stand for another one by itself. -/
def checkOwnMeaning (require : Require) (term iri : String) : Defining Unit := do
  if hasIriForm term.toList then
    let construction ← get
    noteSettled term
    let own ← expandWithin require term
    modify fun checked => { construction with context := checked.context }
    if own != some iri then throw .invalidIriMapping

/-- The identifier of a term whose definition names another one. Only the short form makes a term
that can stand before a colon. -/
def iriOfId (require : Require) (term : String) (isShort : Bool) (id : String) :
    Defining IriMapping := do
  match ← expandWithin require id with
  | some iri =>
    if !isAbsolute iri && !isKeyword iri then throw .invalidIriMapping
    checkOwnMeaning require term iri
    return .mapped (some iri) (isShort && !term.toList.contains ':' && canPrecede iri) false
  | none => throw .invalidIriMapping

/-- The identifier of a term whose definition names none: by what stands before its colon, as it
stands, or within the vocabulary. -/
def iriOfTerm (require : Require) (term : String) : Defining IriMapping := do
  match splitAtColon? term with
  | some (start, rest) =>
    require start
    match ← meaningOf? start with
    | some ⟨some iri, _, _, _, _, _⟩ => return .mapped (some (iri ++ rest)) false false
    | some ⟨none, _, _, _, _, _⟩ => throw .invalidIriMapping
    | none => return .mapped (some term) false false
  | none =>
    if term == "@type" then return .mapped (some term) false false
    match (← get).context.vocabulary with
    | some start => return .mapped (some (← Context.inVocabulary start term)) false false
    | none => throw .invalidTermDefinition

/-- The identifier of a term with a definition. -/
def readIri (require : Require) (term : String) (isShort : Bool) (members : Entries Value) :
    Defining IriMapping :=
  match members.get? "@reverse", members.get? "@id" with
  | some _, some _ => throw .invalidReverse
  | some reverse, none => iriOfReverse require reverse
  | none, some .null => return .mapped none false false
  | none, some (.text id) =>
    if !isKeyword id && hasKeywordForm id then return .ignored
    else if id == term then iriOfTerm require term
    else iriOfId require term isShort id
  | none, some _ => throw .invalidIriMapping
  | none, none => iriOfTerm require term

/-- The type in a definition. -/
def readType (require : Require) (members : Entries Value) : Defining (Option String) := do
  match members.get? "@type" with
  | none => return none
  | some (.text type) =>
    if ["@id", "@vocab", "@none"].contains type then return some type
    match ← expandWithin require type with
    | some iri => if isNamed iri then return some iri else throw .invalidTypeMapping
    | none => throw .invalidTypeMapping
  | some _ => throw .invalidTypeMapping

/-- The containers in a definition. -/
def readContainers (isReverse : Bool) (members : Entries Value) :
    Except Problem (List String) := do
  let given := ((members.get? "@container").map Value.toList).getD []
  let containers ← given.mapM fun container =>
    match container with
    | .text name =>
      if ["@list", "@set", "@index", "@language"].contains name then .ok name
      else .error Problem.invalidContainerMapping
    | _ => .error .invalidContainerMapping
  let limit := if containers.contains "@set" then 2 else 1
  if containers.length > limit then throw .invalidContainerMapping
  if containers.contains "@list" && containers.length != 1 then throw .invalidContainerMapping
  if isReverse && !containers.all ["@index", "@set"].contains then
    throw .invalidContainerMapping
  return containers

/-- The language in a definition; a type leaves no room for one. -/
def readLanguage (members : Entries Value) : Except Problem (Option (Option String)) :=
  if members.has "@type" then .ok none
  else match members.get? "@language" with
    | none => .ok none
    | some .null => .ok (some none)
    | some (.text language) => .ok (some (some (Text.lower language)))
    | some _ => .error .invalidLanguageMapping

/-- The members that the definition of a term may have. -/
def definitionKeys (term : String) : List String :=
  ["@container", "@id", "@language", "@reverse", "@type"] ++
    if term == "@type" then ["@protected"] else []

/-- Reads the definition of a term by an object; the short form names only the identifier. A term
whose definition is passed over keeps its meaning. -/
def readDefinition (require : Require) (term : String) (isShort : Bool) (members : Entries Value) :
    Defining Unit := do
  if !members.keys.all (definitionKeys term).contains then throw .invalidTermDefinition
  let before ← meaningOf? term
  undefine term
  match ← readIri require term isShort members with
  | .ignored =>
    match before with
    | some meaning => giveMeaning term meaning
    | none => pure ()
  | .mapped iri isPrefix isReverse =>
    let type ← readType require members
    let containers ← readContainers isReverse members
    let language ← readLanguage members
    if iri == some "@context" || iri == some "@preserve" then throw .keywordRedefinition
    giveMeaning term ⟨iri, isPrefix, isReverse, type, containers, language⟩
    noteSettled term

/-- Whether a definition only says that the values of `@type` form a set. -/
def refinesType (term : String) (value : Value) : Bool :=
  match value with
  | .object members =>
    match Entries.get? members "@container" with
    | none | some (.text "@set") => term == "@type"
    | some _ => false
  | _ => false

/-- Whether a definition of `@type` has only members that such a definition may have. -/
def isTypeRefinement (value : Value) : Bool :=
  match value with
  | .object members =>
    !members.isEmpty && (Entries.keys members).all ["@container", "@id", "@protected"].contains
  | _ => false

/-- Reads the definition of a term. What only looks like a keyword is passed over. -/
def readTerm (require : Require) (term : String) (value : Value) : Defining Unit := do
  if refinesType term value then
    if !isTypeRefinement value then throw .invalidTermDefinition
  else if isKeyword term then throw .keywordRedefinition
  else if hasKeywordForm term then return
  if term.isEmpty then throw .invalidTermDefinition
  match value with
  | .null | .text _ => readDefinition require term true [("@id", value)]
  | .object members => readDefinition require term false members
  | _ => throw .invalidTermDefinition

/-- Defines a term of a context, and before it the terms that its definition needs, to the given
depth at most. A term that is settled or is no term of the context needs nothing. -/
def defineTerm (terms : Entries Value) : (depth : Nat) → Require
  | 0, term => do
    if terms.has term && !(← get).settled.contains term then throw .cyclicIriMapping
  | depth + 1, term => do
    match terms.get? term with
    | none => return
    | some value =>
      let construction ← get
      if construction.settled.contains term then return
      if construction.begun.contains term then throw .cyclicIriMapping
      noteBegun term
      readTerm (defineTerm terms depth) term value

/-- Defines all terms of a context in their order, except for one reserved name. Every nested
definition begins another term, so the depth need not exceed the number of terms. -/
def defineTerms (terms : Entries Value) : Defining Unit :=
  (terms.keys.filter (· != "_uuid")).forM (defineTerm terms (terms.length + 1))

end GraphPattern.JsonLd
