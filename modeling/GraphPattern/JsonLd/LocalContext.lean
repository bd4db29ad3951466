import GraphPattern.JsonLd.Definition
import GraphPattern.Value.Equality

/-!
# Local contexts

A document sets its context by an object, or by a list of objects that build on
each other. Null or false go back to the start. Besides terms, an object can set
the version, the base, the vocabulary and the language. A context may be wrapped
in an object of its own.
-/

namespace GraphPattern.JsonLd.Context

/-- The base that a context sets. A relative one continues the base set before, if there is one. -/
def readBase (context : Context) : Value → Except Problem (Option (Option String))
  | .null => .ok (some none)
  | .text base =>
    match context.base.join with
    | some before =>
      if isAbsolute base then .ok (some (some base))
      else do return some (some (← resolve before base))
    | none => .ok (some (some base))
  | _ => .error .invalidBase

/-- The vocabulary that a context sets; null takes one away. -/
def readVocabulary (context : Context) : Value → Except Problem (Option (Option String))
  | .null => if context.vocabulary.isSome then .ok none else .error .invalidVocabulary
  | .text start => do return some (← context.expandIri true true start)
  | _ => .error .invalidVocabulary

/-- The default language that a context sets; null takes one away. -/
def readDefaultLanguage (context : Context) : Value → Except Problem (Option String)
  | .null => if context.language.isSome then .ok none else .error .invalidDefaultLanguage
  | .text language => .ok (some (Text.lower language))
  | _ => .error .invalidDefaultLanguage

/-- The keys that set something else than a term. -/
def settings : List String := ["@version", "@base", "@vocab", "@language"]

/-- The context with the settings and terms of an object: first the version, base, vocabulary and
language, and then the terms in their order. -/
def withMembers (context : Context) (members : Entries Value) : Except Problem Context := do
  match members.get? "@version" with
  | some version =>
    if !version.equal (.double (.ofDecimal false 11 (-1))) then throw .invalidVersion
  | none => pure ()
  let context ← match members.get? "@base" with
    | some value => pure { context with base := ← context.readBase value }
    | none => pure context
  let context ← match members.get? "@vocab" with
    | some value => pure { context with vocabulary := ← context.readVocabulary value }
    | none => pure context
  let context ← match members.get? "@language" with
    | some value => pure { context with language := ← context.readDefaultLanguage value }
    | none => pure context
  let ((), construction) ← (defineTerms members).run ⟨context, [], settings⟩
  return construction.context

/-- The context behind one part of a local context, which may be wrapped. -/
def withPart (context : Context) : Value → Except Problem Context
  | .null | .bool false => .ok (initial context.documentBase)
  | .object members =>
    match Entries.get? members "@context" with
    | none => context.withMembers members
    | some (.object inner) => context.withMembers inner
    | some _ => .error .invalidLocalContext
  | _ => .error .invalidLocalContext

/-- The parts of a local context. A list of parts may be wrapped. -/
def parts (given : Value) : List Value :=
  match given.member? "@context" with
  | some (.list parts) => parts
  | _ => given.toList

/-- The context behind a local context. -/
def withLocal (context : Context) (given : Value) : Except Problem Context :=
  (parts given).foldlM withPart context

/-- The context behind the local context of an object in a document. There only a list of parts
may be wrapped in an object that holds nothing else. -/
def withEmbedded (context : Context) (given : Value) : Except Problem Context :=
  match given with
  | .object [("@context", inner)] =>
    if inner.isList then context.withLocal given else .error .invalidLocalContext
  | _ => context.withLocal given

/-- The context behind a context given from outside, which may be wrapped once more. -/
def withGiven (context : Context) (given : Value) : Except Problem Context :=
  context.withLocal ((given.member? "@context").getD given)

end GraphPattern.JsonLd.Context
