import GraphPattern.Error

/-!
# Problems of documents

Why a document cannot be flattened. Whatever goes wrong while a document is
read and expanded is told in the same words. What goes wrong later, while the
nodes of an expanded document are collected, is told apart.
-/

namespace GraphPattern.JsonLd

/-- Why a document cannot be flattened. -/
inductive Problem where
  /-- The document cannot be loaded. -/
  | loadingFailed
  /-- A context is no object. -/
  | invalidLocalContext
  /-- The version is not the supported one. -/
  | invalidVersion
  /-- The base is neither a text nor null, or cannot be resolved against. -/
  | invalidBase
  /-- The vocabulary is no text, or null where there is none, or stands for no identifier. -/
  | invalidVocabulary
  /-- The default language is no text, or null where there is none. -/
  | invalidDefaultLanguage
  /-- A keyword is defined as a term. -/
  | keywordRedefinition
  /-- A term's definition has the wrong form. -/
  | invalidTermDefinition
  /-- A term stands for no identifier. -/
  | invalidIriMapping
  /-- A term is defined through itself. -/
  | cyclicIriMapping
  /-- A term's type is no identifier. -/
  | invalidTypeMapping
  /-- A term's container is unknown or does not go with the rest. -/
  | invalidContainerMapping
  /-- A term's language is neither a text nor null. -/
  | invalidLanguageMapping
  /-- A reversed term has an identifier as well, or a value that cannot be reversed. -/
  | invalidReverse
  /-- Two keys of an object stand for one keyword. -/
  | collidingKeywords
  /-- An identifier is no text. -/
  | invalidId
  /-- A type is no text. -/
  | invalidType
  /-- A value object has a wrong member or value. -/
  | invalidValueObject
  /-- A language is no text, or the value it belongs to is none. -/
  | invalidLanguage
  /-- An index is no text, or belongs to something that cannot have one. -/
  | invalidIndex
  /-- A graph is neither an object nor a list. -/
  | invalidGraph
  /-- A list or set has further members. -/
  | invalidSetOrList
  /-- A node has two indexes; its members so far are told. -/
  | conflictingIndexes (node : Entries Value)
  /-- A node has the same index twice. -/
  | repeatedIndex
  /-- A type of an expanded document is no text. -/
  | notText (type : Value)
  /-- A node without an identifier has no place among nodes with one; the first of the two is the
  one that was met later. -/
  | unordered (later earlier : Value)

/-- The error that a problem of the input is. -/
def Problem.toError : Problem → Error
  | conflictingIndexes node =>
    .normalization
      ("Could not flatten document: ('Invalid JSON-LD syntax; conflicting @index property  " ++
        "detected.',)\nType: jsonld.SyntaxError\nCode: conflicting indexes\n" ++
        "Details: " ++ (Value.object [("node", .object node)]).literal) "input"
  | repeatedIndex => .unsupported "string indices must be integers, not 'str'"
  | notText type => .notTextual type
  | unordered later earlier => .unsupported
      ("'<' not supported between instances of '" ++ later.typeName ++ "' and '" ++
        earlier.typeName ++ "'")
  | _ => .normalization
      ("Could not flatten document: ('Could not expand input before flattening.',)\n" ++
        "Type: jsonld.FlattenError") "input"

end GraphPattern.JsonLd
