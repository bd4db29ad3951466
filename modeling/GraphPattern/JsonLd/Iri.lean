import GraphPattern.Text.Blank
import GraphPattern.Text.Search

/-!
# Identifiers in documents

Which texts are keywords, which only look like keywords, and which are absolute
identifiers. All of them may have one line break at their very end. What comes
before the first colon of a text may be a scheme, or a prefix that stands for
the start of an identifier.
-/

namespace GraphPattern.JsonLd

/-- The keywords of JSON-LD. -/
def keywords : List String := [
  "@base", "@container", "@context", "@default", "@direction", "@embed", "@explicit", "@first",
  "@graph", "@id", "@import", "@included", "@index", "@json", "@language", "@list", "@nest",
  "@none", "@omitDefault", "@propagate", "@preserve", "@protected", "@requireAll", "@reverse",
  "@set", "@type", "@value", "@version", "@vocab"]

/-- Whether a text is a keyword. -/
def isKeyword (text : String) : Bool := keywords.contains text

/-- Characters without the line break at their very end, if there is one. -/
def withoutFinalBreak (chars : List Char) : List Char :=
  if chars.getLast? == some '\n' then chars.dropLast else chars

/-- Whether a text has the form of a keyword: an at sign and letters. -/
def hasKeywordForm (text : String) : Bool :=
  match withoutFinalBreak text.toList with
  | '@' :: c :: rest => (c :: rest).all Char.isAlpha
  | _ => false

/-- Splits a text at its first colon, unless it has none. -/
def splitAtColon? (text : String) : Option (String × String) :=
  match text.toList.span (· != ':') with
  | (_, []) => none
  | (start, _ :: rest) => some (String.ofList start, String.ofList rest)

/-- Splits a text at its first colon, provided that some colon does not come first of all. -/
def splitCompact? (text : String) : Option (String × String) :=
  if (text.toList.drop 1).contains ':' then splitAtColon? text else none

/-- Whether the two parts of a text are an identifier as they stand: a blank node's label, or one
with an authority. -/
def standsAlone (start rest : String) : Bool := start == "_" || Text.startsWith "//" rest

/-- Whether a text is the label of a blank node. -/
def isBlankLabel (text : String) : Bool := Text.startsWith "_:" text

/-- Whether characters are a scheme: a letter and then letters, digits and a few signs. -/
def isScheme : List Char → Bool
  | [] => false
  | c :: rest => c.isAlpha && rest.all fun c => c.isAlphanum || ('+' ≤ c && c ≤ '.')

/-- Whether a text is absolute: a scheme or an underscore, a colon, and no blanks behind it. -/
def isAbsolute (text : String) : Bool :=
  match splitAtColon? text with
  | some (start, rest) =>
    (start == "_" || isScheme start.toList) &&
      (withoutFinalBreak rest.toList).all fun c => !Text.isBlank c
  | none => false

/-- Whether a text is an absolute identifier that is no blank node's label. -/
def isNamed (text : String) : Bool := isAbsolute text && !isBlankLabel text

end GraphPattern.JsonLd
