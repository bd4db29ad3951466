import GraphPattern.Accessor
import GraphPattern.JsonLd.Collection
import GraphPattern.JsonLd.Expansion
import GraphPattern.Value.Reader

/-!
# The JSON-LD accessor

The accessor that reads documents as JSON-LD. A document is an object, a list,
or the address of one of the documents that can be loaded, which may be given
as JSON text. Without a base, relative identifiers stay as they are written, so
that an identifier such as `?x` still names the variable it was declared as.
-/

namespace GraphPattern

namespace JsonLd

/-- A document that was found at an address. A text is read as JSON, and null is no document. -/
def loaded (found : Value) : Except Problem Value :=
  match found with
  | .null => .error .loadingFailed
  | .text json =>
    match Value.ofJson? json with
    | none | some .null => .error .loadingFailed
    | some document => .ok document
  | document => .ok document

/-- The document itself, or the one at its address. -/
def load (documents : Entries Value) : Value → Except Problem Value
  | .text address =>
    match documents.get? address with
    | none => .error .loadingFailed
    | some found => loaded found
  | document => .ok document

/-- The flattened nodes of a document. -/
def flattenDocument (documents : Entries Value) (base : Option String) (document : Value)
    (context : Option Value) : Except Problem (List Value) := do
  let document ← load documents document
  let start := Context.initial base
  let active ← match context with
    | some given => start.withGiven given
    | none => pure start
  flattenItems (← expandDocument active document)

/-- Whether a value can be a document. -/
def isDocument : Value → Bool
  | .text _ | .list _ | .object _ => true
  | _ => false

end JsonLd

namespace Accessor

/-- Flattens a document as JSON-LD. -/
def flattenJsonLd (documents : Entries Value) (base : Option String) (document : Value)
    (context : Option Value) : Except Error (List Value) :=
  if JsonLd.isDocument document then
    (JsonLd.flattenDocument documents base document context).mapError JsonLd.Problem.toError
  else .error (.normalization
    ("Cannot flatten " ++ document.typeName ++ ": expected a JSON-LD object, array or URL") "input")

/-- The accessor for JSON-LD documents, some of which can be loaded by their addresses. -/
def jsonLd (documents : Entries Value) (base : Option String) : Accessor :=
  reading (flattenJsonLd documents base) .sameTerm

end Accessor

end GraphPattern
