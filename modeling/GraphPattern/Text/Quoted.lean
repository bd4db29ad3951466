import GraphPattern.Text.Visible

/-!
# Quoted text

Text as messages show it: between single quotes, or between double quotes when
it holds a single quote and no double one. A backslash marks what the reader
could not see or would take for the end.
-/

namespace GraphPattern.Text

/-- The quote that encloses a text. -/
def quoteFor (chars : List Char) : Char :=
  if chars.contains '\'' && !chars.contains '"' then '"' else '\''

/-- The hexadecimal digit of a number below sixteen, in lower case. -/
def hexDigit (digit : Nat) : Char :=
  if digit < 10 then Char.ofNat ('0'.toNat + digit) else Char.ofNat ('a'.toNat + (digit - 10))

/-- The last hexadecimal digits of a number, as many as asked for. -/
def hexDigits (number : Nat) : (count : Nat) → List Char
  | 0 => []
  | count + 1 => hexDigits (number / 16) count ++ [hexDigit (number % 16)]

/-- The mark of a character that is not visible: its code point in two, four or eight digits. -/
def codePointMark (code : Nat) : List Char :=
  if code < 0x100 then '\\' :: 'x' :: hexDigits code 2
  else if code < 0x10000 then '\\' :: 'u' :: hexDigits code 4
  else '\\' :: 'U' :: hexDigits code 8

/-- One character inside the quote: the quote itself, the backslash and what is not visible are
marked, and all else stands for itself. -/
def quoteChar (quote c : Char) : List Char :=
  if c == quote || c == '\\' then ['\\', c]
  else if c == '\n' then ['\\', 'n']
  else if c == '\r' then ['\\', 'r']
  else if c == '\t' then ['\\', 't']
  else if isVisible c then [c]
  else codePointMark c.toNat

/-- Text between quotes. -/
def quoted (text : String) : String :=
  let chars := text.toList
  let quote := quoteFor chars
  String.ofList (quote :: chars.flatMap (quoteChar quote) ++ [quote])

end GraphPattern.Text
