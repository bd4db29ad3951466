import GraphPattern.Number.Shortest
import GraphPattern.Text.Quoted
import GraphPattern.Value.Basic

/-!
# Values as messages show them

Error texts and log lines show values as literals: text between quotes, lists
between square brackets, objects between braces, and members in their order. A
value that is a text is shown bare where it stands on its own.
-/

namespace GraphPattern.Value

mutual

/-- The literal of a value. -/
def literal : Value → String
  | null => "None"
  | bool truth => if truth then "True" else "False"
  | int number => toString number
  | double number => number.render
  | text chars => Text.quoted chars
  | list items => "[" ++ ", ".intercalate (literalItems items) ++ "]"
  | object members => "\x7b" ++ ", ".intercalate (literalMembers members) ++ "\x7d"

/-- The literals of items. -/
def literalItems : List Value → List String
  | [] => []
  | item :: rest => item.literal :: literalItems rest

/-- The literals of members, each behind its quoted name. -/
def literalMembers : List (String × Value) → List String
  | [] => []
  | (key, value) :: rest => (Text.quoted key ++ ": " ++ value.literal) :: literalMembers rest

end

/-- A value on its own: a text bare, any other value as its literal. -/
def shown : Value → String
  | text chars => chars
  | value => value.literal

end GraphPattern.Value
