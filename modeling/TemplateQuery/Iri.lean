import TemplateQuery.Text.Offset
import TemplateQuery.Text.Search

/-! IRI references: their five components, dot segments, and resolution against a base. A fragment
or a query of the reference survives resolution, so `#me` and `?name` keep their meaning. -/

set_option autoImplicit false

namespace TemplateQuery.Iri

open Text

/-- The five components of a reference. Absent and empty differ. -/
structure Components where
  scheme : Option (List Char)
  authority : Option (List Char)
  path : List Char
  query : Option (List Char)
  fragment : Option (List Char)
  deriving DecidableEq, Repr

def isScheme : List Char → Bool
  | [] => false
  | c :: cs => c.isAlpha && cs.all fun d => d.isAlphanum || d == '+' || d == '-' || d == '.'

/-- Cut at the first `mark`; the second part is absent when there is none. -/
def cutAt (mark : Char) (cs : List Char) : List Char × Option (List Char) :=
  match splitAt? (· == mark) cs with
  | some (before, after) => (before, some after)
  | none => (cs, none)

def cutScheme (cs : List Char) : Option (List Char) × List Char :=
  match splitAt? (· == ':') cs with
  | some (before, after) => if isScheme before then (some before, after) else (none, cs)
  | none => (none, cs)

/-- A leading authority, which `//` announces and the next slash ends. -/
def cutAuthority : List Char → Option (List Char) × List Char
  | '/' :: '/' :: after => (some (after.takeWhile (· != '/')), after.dropWhile (· != '/'))
  | cs => (none, cs)

def split (cs : List Char) : Components :=
  let (rest, fragment) := cutAt '#' cs
  let (rest, query) := cutAt '?' rest
  let (scheme, rest) := cutScheme rest
  let (authority, path) := cutAuthority rest
  { scheme, authority, path, query, fragment }

def Components.recompose (c : Components) : List Char :=
  (match c.scheme with | some s => s ++ [':'] | none => []) ++
  (match c.authority with | some a => '/' :: '/' :: a | none => []) ++
  c.path ++
  (match c.query with | some q => '?' :: q | none => []) ++
  (match c.fragment with | some f => '#' :: f | none => [])

/-- The parts of a path between its slashes; a path that starts with a slash has an empty first
segment. -/
def segments : List Char → List (List Char)
  | [] => [[]]
  | c :: cs =>
    if c = '/' then [] :: segments cs
    else
      match segments cs with
      | [] => [[c]]
      | s :: rest => (c :: s) :: rest

def isDotSegment (s : List Char) : Bool := s == ['.'] || s == ['.', '.']

/-- Walk the segments after the first, keeping the pieces written so far in reverse. `.` stays
where it is and `..` takes one piece back; at the end of the path either leaves a slash. -/
def climb (pieces : List (List Char)) : List (List Char) → List (List Char)
  | [] => pieces
  | s :: rest =>
    if s = ['.'] then
      if rest.isEmpty then ['/'] :: pieces else climb pieces rest
    else if s = ['.', '.'] then
      if rest.isEmpty then ['/'] :: pieces.tail else climb pieces.tail rest
    else climb (('/' :: s) :: pieces) rest

def removeDotSegments (path : List Char) : List Char :=
  -- Dot segments in front have nothing to refer to.
  match (segments path).dropWhile isDotSegment with
  | [] => []
  | first :: rest => (climb [first] rest).reverse.flatten

def merge (base : Components) (path : List Char) : List Char :=
  if base.authority.isSome && base.path.isEmpty then '/' :: path
  else
    match splitAtLast? (· == '/') base.path with
    | some (before, _) => before ++ '/' :: path
    | none => path

def target (base reference : Components) : Components :=
  if reference.scheme.isSome then
    { reference with path := removeDotSegments reference.path }
  else if reference.authority.isSome then
    { reference with scheme := base.scheme, path := removeDotSegments reference.path }
  else if reference.path.isEmpty then
    { base with query := reference.query.or base.query, fragment := reference.fragment }
  else if reference.path.head? = some '/' then
    { reference with
      scheme := base.scheme, authority := base.authority, path := removeDotSegments reference.path }
  else
    { reference with
      scheme := base.scheme, authority := base.authority
      path := removeDotSegments (merge base reference.path) }

/-- Resolve a reference against a base. An absolute reference only loses its dot segments. -/
def resolve (base reference : String) : String :=
  String.ofList (target (split base.toList) (split reference.toList)).recompose

def isAbsolute (iri : String) : Bool := (split iri.toList).scheme.isSome

/-- What follows the last `#`; failing that the last slash; failing that the last colon; else all. -/
def localChars (cs : List Char) : List Char :=
  match splitAtLast? (· == '#') cs with
  | some (_, after) => after
  | none =>
    match splitAtLast? (· == '/') cs with
    | some (_, after) => after
    | none =>
      match splitAtLast? (· == ':') cs with
      | some (_, after) => after
      | none => cs

def localName (iri : String) : String := String.ofList (localChars iri.toList)

end TemplateQuery.Iri
