import GraphPattern.JsonLd.Iri
import GraphPattern.JsonLd.Problem
import GraphPattern.JsonLd.Reference

/-!
# Contexts

A context says what the terms of a document mean: the identifier or keyword a
term stands for, how its values are read, and the vocabulary, base and language
of everything that no term decides. Here are contexts as they are read; how
terms are defined and contexts built is in the modules behind this one.
-/

namespace GraphPattern.JsonLd

/-- What a term means. -/
structure TermDefinition where
  /-- The identifier or keyword that the term stands for; a term may stand for nothing. -/
  iri : Option String
  /-- Whether the term can stand before a colon. -/
  isPrefix : Bool
  /-- Whether the term leads from a value to the node. -/
  isReverse : Bool
  /-- The type of its values. -/
  type : Option String
  /-- The containers of its values. -/
  containers : List String
  /-- The language of its values, if the term decides it; it may decide for none. -/
  language : Option (Option String)

/-- The meaning of terms and of what no term decides. -/
structure Context where
  /-- The terms. -/
  terms : Entries TermDefinition
  /-- The start of identifiers that are not absolute, if the context sets one; what it sets may
  stand for nothing, and then no identifier can start with it. -/
  vocabulary : Option (Option String)
  /-- The base that the context sets, if it sets one; it may set none. -/
  base : Option (Option String)
  /-- The language of texts. -/
  language : Option String
  /-- The base of the document, given from outside. -/
  documentBase : Option String

namespace Context

/-- The context before any other, for a document with or without a base. -/
def initial (documentBase : Option String) : Context := ⟨[], none, none, none, documentBase⟩

/-- The definition of a term, if it has one. -/
def definition? (context : Context) (term : String) : Option TermDefinition :=
  context.terms.get? term

/-- The identifier that a term stands for before a colon, if it can stand there. -/
def prefixIri? (context : Context) (term : String) : Option String :=
  ((context.definition? term).filter TermDefinition.isPrefix).bind TermDefinition.iri

/-- The identifier behind a prefix and a colon, or the text itself if it is absolute. -/
def expandCompact? (context : Context) (text : String) : Option String :=
  match splitCompact? text with
  | none => none
  | some (start, rest) =>
    if standsAlone start rest then some text
    else match context.prefixIri? start with
      | some iri => some (iri ++ rest)
      | none => if isAbsolute text then some text else none

/-- A reference resolved against a base. -/
def resolve (base reference : String) : Except Problem String :=
  match Reference.resolve? base reference with
  | some resolved => .ok resolved
  | none => .error .invalidBase

/-- A text resolved against the base, provided that the document has one. -/
def resolveRelative (context : Context) (text : String) : Except Problem String :=
  match context.documentBase, context.base with
  | none, _ | some _, some none => .ok text
  | some documentBase, some (some base) => do resolve (← resolve documentBase base) text
  | some documentBase, none => resolve documentBase text

/-- An identifier of the vocabulary. -/
def inVocabulary (start : Option String) (text : String) : Except Problem String :=
  match start with
  | some start => .ok (start ++ text)
  | none => .error .invalidVocabulary

/-- What a text stands for where no term is looked for: an identifier that is compact or absolute,
else one of the vocabulary if that is used, else one relative to the document if those are. -/
def expandPlain (context : Context) (vocabulary relative : Bool) (text : String) :
    Except Problem String :=
  match context.expandCompact? text with
  | some identifier => .ok identifier
  | none =>
    match (if vocabulary then context.vocabulary else none) with
    | some start => inVocabulary start text
    | none => if relative then context.resolveRelative text else .ok text

/-- What a text stands for, if it stands for anything. Where the vocabulary is used, terms are
looked for as well. -/
def expandIri (context : Context) (vocabulary relative : Bool) (text : String) :
    Except Problem (Option String) :=
  if isKeyword text then .ok (some text)
  else if hasKeywordForm text then .ok none
  else match (if vocabulary then context.definition? text else none) with
    | some definition => .ok definition.iri
    | none => (context.expandPlain vocabulary relative text).map some

/-- What a key of an object stands for. -/
def expandKey (context : Context) (key : String) : Except Problem (Option String) :=
  context.expandIri true false key

/-- The containers of a term's values. -/
def containers (context : Context) (term : String) : List String :=
  ((context.definition? term).map TermDefinition.containers).getD []

/-- The type of a term's values. -/
def typeOf (context : Context) (term : String) : Option String :=
  (context.definition? term).bind TermDefinition.type

/-- The language of a term's texts: the term's own decision, else the default. -/
def languageOf (context : Context) (term : String) : Option String :=
  ((context.definition? term).bind TermDefinition.language).getD context.language

end Context

end GraphPattern.JsonLd
