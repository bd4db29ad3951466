/-!
# Parts of a text

Whether a text starts with another, ends with one of several characters, or
holds another one anywhere.
-/

namespace GraphPattern.Text

/-- Whether a text starts with another. -/
def startsWith (start text : String) : Bool := start.toList.isPrefixOf text.toList

/-- Whether characters occur one behind the other somewhere in a longer run. -/
def holdsRun (part : List Char) : List Char → Bool
  | [] => part.isEmpty
  | c :: rest => part.isPrefixOf (c :: rest) || holdsRun part rest

/-- Whether a text occurs in another. -/
def holds (text part : String) : Bool := holdsRun part.toList text.toList

end GraphPattern.Text
