import GraphPattern.Value.Basic

/-!
# Reading values from JSON text

Reading has two passes. The first cuts the characters into tokens; the second
takes the tokens one by one and keeps the containers that are still open on a
stack. Both go once through their input, so every text is read or refused. An
object that repeats a name keeps the name's first place and its last value. Three
words beyond JSON name the infinities and the double that is no number.
-/

namespace GraphPattern

/-- A piece of JSON text. -/
inductive Token where
  /-- A left square bracket. -/
  | openList
  /-- A right square bracket. -/
  | closeList
  /-- A left brace. -/
  | openObject
  /-- A right brace. -/
  | closeObject
  /-- A comma between items or members. -/
  | comma
  /-- A colon between a name and its value. -/
  | colon
  /-- A string, its escapes resolved. -/
  | text (chars : String)
  /-- A number or another bare word. -/
  | scalar (value : Value)

namespace Token

/-- Splits a run of digits off the front. -/
def digits (chars : List Char) : List Char × List Char :=
  (chars.takeWhile Char.isDigit, chars.dropWhile Char.isDigit)

/-- The number that decimal digits spell. -/
def digitsValue (chars : List Char) : Nat :=
  chars.foldl (fun value c => value * 10 + (c.toNat - '0'.toNat)) 0

/-- The exponent after an exponent mark, if the characters are one. -/
def exponent? (chars : List Char) : Option Int :=
  let (negative, rest) := match chars with
    | '-' :: rest => (true, rest)
    | '+' :: rest => (false, rest)
    | rest => (false, rest)
  if rest.isEmpty || !rest.all Char.isDigit then none
  else some (if negative then -(digitsValue rest : Int) else digitsValue rest)

/-- The number that a word spells, if it spells one. -/
def number? (word : List Char) : Option Value :=
  let (negative, magnitude) := match word with
    | '-' :: rest => (true, rest)
    | rest => (false, rest)
  let (whole, rest) := digits magnitude
  let leadingZero := match whole with
    | '0' :: _ :: _ => true
    | _ => false
  if whole.isEmpty || leadingZero then none
  else match rest with
    | [] =>
      let number : Int := digitsValue whole
      some (.int (if negative then -number else number))
    | '.' :: rest =>
      let (fraction, rest) := digits rest
      let scaled (exponent : Int) : Value :=
        .double (.ofDecimal negative (digitsValue (whole ++ fraction)) (exponent - fraction.length))
      if fraction.isEmpty then none
      else match rest with
        | [] => some (scaled 0)
        | mark :: rest => if mark == 'e' || mark == 'E' then (exponent? rest).map scaled else none
    | mark :: rest =>
      if mark == 'e' || mark == 'E' then
        (exponent? rest).map fun exponent =>
          .double (.ofDecimal negative (digitsValue whole) exponent)
      else none

/-- The value that a bare word stands for. -/
def word? (word : List Char) : Option Value :=
  if word == "null".toList then some .null
  else if word == "true".toList then some (.bool true)
  else if word == "false".toList then some (.bool false)
  else if word == "NaN".toList then some (.double .undefined)
  else if word == "Infinity".toList then some (.double (.infinite false))
  else if word == "-Infinity".toList then some (.double (.infinite true))
  else number? word

/-- The mark that a character is between words and strings. -/
def mark? : Char → Option Token
  | '[' => some openList
  | ']' => some closeList
  | '{' => some openObject
  | '}' => some closeObject
  | ',' => some comma
  | ':' => some colon
  | _ => none

/-- The value of a hexadecimal digit. -/
def hexValue? (c : Char) : Option Nat :=
  let code := c.toNat
  if 48 ≤ code && code ≤ 57 then some (code - 48)
  else if 97 ≤ code && code ≤ 102 then some (code - 87)
  else if 65 ≤ code && code ≤ 70 then some (code - 55)
  else none

/-- The character that a one-letter escape stands for. -/
def escaped? : Char → Option Char
  | '"' => some '"'
  | '\\' => some '\\'
  | '/' => some '/'
  | 'b' => some '\x08'
  | 'f' => some '\x0c'
  | 'n' => some '\n'
  | 'r' => some '\r'
  | 't' => some '\t'
  | _ => none

/-- The place within the text that a cut has reached. What has been read of a word or string is
held in reverse. -/
inductive Cut where
  /-- Between tokens. -/
  | between
  /-- Inside a bare word. -/
  | word (reversed : List Char)
  /-- Inside a string, perhaps behind the first half of a surrogate pair. -/
  | string (reversed : List Char) (half : Option Nat)
  /-- Behind a backslash. -/
  | escape (reversed : List Char) (half : Option Nat)
  /-- Inside a numeric escape of which some digits remain. -/
  | code (reversed : List Char) (half : Option Nat) (remaining value : Nat)

/-- A string so far, with the replacement character for a half pair that nothing completed. -/
def settle (reversed : List Char) (half : Option Nat) : List Char :=
  if half.isSome then '\ufffd' :: reversed else reversed

/-- The cut behind a complete numeric escape; two halves of a surrogate pair make one
character. -/
def afterCode (reversed : List Char) (half : Option Nat) (code : Nat) : Cut :=
  if 0xd800 ≤ code && code < 0xdc00 then .string (settle reversed half) (some code)
  else if 0xdc00 ≤ code && code < 0xe000 then
    match half with
    | some high =>
      .string (Char.ofNat (0x10000 + (high - 0xd800) * 0x400 + (code - 0xdc00)) :: reversed) none
    | none => .string ('\ufffd' :: reversed) none
  else .string (Char.ofNat code :: settle reversed half) none

/-- Whether a character separates tokens. -/
def isSpace (c : Char) : Bool := c == ' ' || c == '\n' || c == '\r' || c == '\t'

/-- Takes one more character; the tokens are in reverse. -/
def take (cut : Cut) (tokens : List Token) (c : Char) : Option (Cut × List Token) :=
  let outside (tokens : List Token) : Option (Cut × List Token) :=
    if isSpace c then some (.between, tokens)
    else if c == '"' then some (.string [] none, tokens)
    else match mark? c with
      | some mark => some (.between, mark :: tokens)
      | none => some (.word [c], tokens)
  match cut with
  | .between => outside tokens
  | .word reversed =>
    if isSpace c || c == '"' || (mark? c).isSome then
      (word? reversed.reverse).bind fun value => outside (.scalar value :: tokens)
    else some (.word (c :: reversed), tokens)
  | .string reversed half =>
    if c == '"' then
      some (.between, .text (String.ofList (settle reversed half).reverse) :: tokens)
    else if c == '\\' then some (.escape reversed half, tokens)
    else if c.toNat < 32 then none
    else some (.string (c :: settle reversed half) none, tokens)
  | .escape reversed half =>
    if c == 'u' then some (.code reversed half 4 0, tokens)
    else (escaped? c).map fun other => (.string (other :: settle reversed half) none, tokens)
  | .code reversed half remaining value =>
    (hexValue? c).map fun digit =>
      let value := value * 16 + digit
      if remaining ≤ 1 then (afterCode reversed half value, tokens)
      else (.code reversed half (remaining - 1) value, tokens)

/-- Cuts all characters, starting from a cut and the tokens found so far. -/
def cutAll (cut : Cut) (tokens : List Token) : List Char → Option (List Token)
  | [] =>
    match cut with
    | .between => some tokens.reverse
    | .word reversed => (word? reversed.reverse).map fun value => (scalar value :: tokens).reverse
    | _ => none
  | c :: rest => (take cut tokens c).bind fun (cut, tokens) => cutAll cut tokens rest

end Token

/-- A container that is still open. What it holds is in reverse. -/
inductive OpenContainer where
  /-- A list of which the next item is being read. -/
  | list (reversed : List Value)
  /-- An object of which a member's value is being read. -/
  | object (reversed : List (String × Value)) (key : String)

/-- What may come next. -/
inductive Expecting where
  /-- A value. -/
  | value
  /-- A value, or the end of a list that has just been opened. -/
  | item
  /-- A name; at the start of an object also its end. -/
  | key (reversed : List (String × Value)) (atStart : Bool)
  /-- The colon behind a name. -/
  | colon (reversed : List (String × Value)) (key : String)
  /-- What follows a complete value. -/
  | after (value : Value)

namespace Value

/-- Takes one more token. -/
def accept (expecting : Expecting) (stack : List OpenContainer) (token : Token) :
    Option (Expecting × List OpenContainer) :=
  let start : Option (Expecting × List OpenContainer) := match token with
    | .openList => some (.item, .list [] :: stack)
    | .openObject => some (.key [] true, stack)
    | .text chars => some (.after (.text chars), stack)
    | .scalar value => some (.after value, stack)
    | _ => none
  match expecting, token, stack with
  | .value, _, _ => start
  | .item, .closeList, .list _ :: stack => some (.after (.list []), stack)
  | .item, _, _ => start
  | .key _ true, .closeObject, stack => some (.after (.object []), stack)
  | .key reversed _, .text key, stack => some (.colon reversed key, stack)
  | .colon reversed key, .colon, stack => some (.value, .object reversed key :: stack)
  | .after value, .comma, .list reversed :: stack =>
    some (.value, .list (value :: reversed) :: stack)
  | .after value, .closeList, .list reversed :: stack =>
    some (.after (.list (value :: reversed).reverse), stack)
  | .after value, .comma, .object reversed key :: stack =>
    some (.key ((key, value) :: reversed) false, stack)
  | .after value, .closeObject, .object reversed key :: stack =>
    some (.after (.object (Entries.ofPairs ((key, value) :: reversed).reverse)), stack)
  | _, _, _ => none

/-- Takes all tokens; the one value must be complete at the end. -/
def acceptAll (expecting : Expecting) (stack : List OpenContainer) : List Token → Option Value
  | [] =>
    match expecting, stack with
    | .after value, [] => some value
    | _, _ => none
  | token :: rest =>
    (accept expecting stack token).bind fun (expecting, stack) => acceptAll expecting stack rest

/-- The value that a JSON text spells, if it spells one. -/
def ofJson? (json : String) : Option Value :=
  (Token.cutAll .between [] json.toList).bind (acceptAll .value [])

end Value

end GraphPattern
