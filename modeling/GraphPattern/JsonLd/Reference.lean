/-!
# Relative references

How a reference is resolved against a base. A reference with a colon is
absolute, and only the segments `.` and `..` of its path are resolved. Any other
replaces the end of the base, from the query or fragment that it starts with,
from the root, or from the last slash. A base without a colon has no scheme, and
nothing but a query or fragment can be put behind it.
-/

namespace GraphPattern.JsonLd.Reference

/-- The base that stands for an empty one. -/
def fallbackBase : List Char := "http://example.org/base/".toList

/-- Splits characters before the first that is one of some stops. -/
def before (stops : List Char) (chars : List Char) : List Char × List Char :=
  chars.span fun c => !stops.contains c

/-- Characters up to the first that is a given mark. A mark that comes first of all is kept with
everything behind it. -/
def upTo (mark : Char) (chars : List Char) : List Char :=
  if chars.head? == some mark then chars else (before [mark] chars).1

/-- The segments of a path, between its slashes. -/
def segments : List Char → List (List Char)
  | [] => [[]]
  | c :: rest =>
    if c == '/' then [] :: segments rest
    else match segments rest with
      | [] => [[c]]
      | segment :: others => (c :: segment) :: others

/-- Whether a segment stands for the directory it is in or for the one above. -/
def isDots (segment : List Char) : Bool := segment == ['.'] || segment == ['.', '.']

/-- Adds a segment to those kept so far: the segment `.` is passed over, and `..` takes the last
one back. -/
def keep (kept : List (List Char)) (segment : List Char) : List (List Char) :=
  if segment == ['.'] then kept
  else if segment == ['.', '.'] then kept.dropLast
  else kept ++ [segment]

/-- A path that starts with a slash, without the segments `.` and `..`. The query or fragment
behind it stays. Where there is neither, the path of a directory ends in a slash. -/
def withoutDots (path : List Char) : List Char :=
  let (path, rest) := before ['?', '#'] path
  let given := (segments path).drop 1
  let kept := given.foldl keep []
  let kept := if rest.isEmpty && given.getLast?.any isDots then kept ++ [[]] else kept
  '/' :: ['/'].intercalate kept ++ rest

/-- A reference that does not need a base, without the segments `.` and `..`. Its path starts at
the first slash behind the scheme and the authority. -/
def cleaned (reference : List Char) : List Char :=
  let (scheme, rest) :=
    match before [':'] reference with
    | (scheme, ':' :: rest) => (scheme ++ [':'], rest)
    | _ => ([], reference)
  let (slashes, rest) :=
    match rest with
    | '/' :: '/' :: rest => (['/', '/'], rest)
    | rest => ([], rest)
  let (authority, path) := before ['/'] rest
  scheme ++ slashes ++ authority ++ (if path.isEmpty then [] else withoutDots path)

/-- A path with a reference behind its last slash. Behind a name, a single dot at the start of the
reference is dropped, unless the reference has at most two characters. -/
def merged (path reference : List Char) : List Char :=
  let directory := (path.reverse.dropWhile (· != '/')).reverse
  let reference :=
    match reference with
    | '.' :: c :: next :: rest =>
      if directory != path && c != '.' && c != '/' then c :: next :: rest else reference
    | _ => reference
  directory ++ reference

/-- What a reference that starts with neither query nor fragment stands for under a base with the
given scheme. -/
def under (scheme base reference : List Char) : List Char :=
  let (start, authority, path) :=
    match base with
    | '/' :: '/' :: rest =>
      let (authority, path) := before ['/'] rest
      (scheme ++ ['/', '/'], authority, path)
    | rest =>
      let (opaquePart, path) := before ['/'] rest
      (scheme ++ opaquePart, [], path)
  match reference, path with
  | '/' :: '/' :: _, _ => scheme ++ cleaned reference
  | _, [] =>
    if authority.isEmpty then scheme ++ cleaned reference
    else start ++ authority ++ '/' :: cleaned reference
  | '/' :: _, _ => start ++ authority ++ withoutDots reference
  | _, path => start ++ authority ++ withoutDots (merged path reference)

/-- What a reference stands for under a base, if the base has the scheme that this needs. -/
def resolveChars? (base reference : List Char) : Option (List Char) :=
  let base := upTo '#' (if base.isEmpty then fallbackBase else base)
  let (scheme, rest) := before [':'] base
  match reference with
  | [] => if rest.isEmpty then none else some base
  | '?' :: _ => some (upTo '?' base ++ reference)
  | '#' :: _ => some (base ++ reference)
  | _ =>
    if reference.contains ':' then some (cleaned reference)
    else if rest.isEmpty then none
    else some (under (scheme ++ [':']) (rest.drop 1) reference)

/-- What a reference stands for under a base, as texts. -/
def resolve? (base reference : String) : Option String :=
  (resolveChars? base.toList reference.toList).map String.ofList

end GraphPattern.JsonLd.Reference
