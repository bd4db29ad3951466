import GraphPattern.Number.Shortest
import GraphPattern.Text.Quoted
import GraphPattern.Value.Basic

/-!
# Writing values as JSON text

The text is compact. Whole numbers have no point and doubles always have a
point or an exponent, so a reader can tell the two apart. For an infinity there
is no JSON text, and a number takes its place that is too large to be finite. A
double that is no number is written as the word that the reader accepts for it.
-/

namespace GraphPattern.Value

/-- One character inside a JSON string. -/
def jsonChar (c : Char) : List Char :=
  if c == '"' || c == '\\' then ['\\', c]
  else if c.toNat < 32 then
    ['\\', 'u', '0', '0', Text.hexDigit (c.toNat / 16), Text.hexDigit (c.toNat % 16)]
  else [c]

/-- A text as a JSON string. -/
def jsonText (chars : String) : String :=
  String.ofList ('"' :: chars.toList.flatMap jsonChar ++ ['"'])

/-- A double as a JSON number. -/
def jsonDouble : Double → String
  | .infinite negative => if negative then "-1e999" else "1e999"
  | .undefined => "NaN"
  | number => number.render

mutual

/-- The JSON text of a value. -/
def json : Value → String
  | null => "null"
  | bool truth => if truth then "true" else "false"
  | int number => toString number
  | double number => jsonDouble number
  | text chars => jsonText chars
  | list items => "[" ++ ",".intercalate (jsonItems items) ++ "]"
  | object members => "\x7b" ++ ",".intercalate (jsonMembers members) ++ "\x7d"

/-- The JSON texts of items. -/
def jsonItems : List Value → List String
  | [] => []
  | item :: rest => item.json :: jsonItems rest

/-- The JSON texts of members. -/
def jsonMembers : List (String × Value) → List String
  | [] => []
  | (key, value) :: rest => (jsonText key ++ ":" ++ value.json) :: jsonMembers rest

end

end GraphPattern.Value
