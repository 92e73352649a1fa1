import Outlier.Exchange.Url
import Outlier.Failure

/-! References to addresses, which are resolved against a base as texts. They are the texts of
addresses, so that there are no control characters in them and nothing blank in front. -/
namespace Outlier

/-- A reference by its parts as they are written. An empty part is the same as none. -/
structure Reference where
  scheme : List Char
  place : List Char
  path : List Char
  params : List Char
  query : List Char
  fragment : List Char
  deriving DecidableEq, Repr

namespace Reference

inductive Defect where
  | brackets
  | future
  | versionFour
  | number (written : List Char)
  | composed (place : List Char)
  deriving DecidableEq, Repr

namespace Defect

def message : Defect → String
  | .brackets => "Invalid IPv6 URL"
  | .future => "IPvFuture address is invalid"
  | .versionFour => "An IPv4 address cannot be in brackets"
  | .number written =>
    Quoted.text (String.ofList written) ++ " does not appear to be an IPv4 or IPv6 address"
  | .composed place =>
    "netloc '" ++ String.ofList place ++ "' contains invalid characters under NFKC normalization"

def failure (d : Defect) : Failure := .trouble (.other "ValueError") d.message

end Defect

/-- The schemes in which references are relative, and whether their paths have parameters. -/
def schemes : List (String × Bool) :=
  [("", true), ("ftp", true), ("http", true), ("gopher", false), ("nntp", false), ("imap", true),
    ("wais", false), ("file", false), ("https", true), ("shttp", true), ("mms", true),
    ("prospero", true), ("rtsp", true), ("rtsps", true), ("rtspu", true), ("sftp", true),
    ("svn", false), ("svn+ssh", false), ("ws", false), ("wss", false)]

def hasParams? (scheme : List Char) : Option Bool := schemes.lookup (String.ofList scheme)

/-! Reading. -/

/-- A scheme, which is not empty, ends with a colon. -/
def splitScheme (s : List Char) : List Char × List Char :=
  match Url.cut ':' s with
  | (scheme, some rest) =>
    if scheme.all Url.isSchemeChar && scheme.head?.any Char.isAlpha then
      (scheme.map Char.toLower, rest)
    else ([], s)
  | _ => ([], s)

def splitPlace : List Char → List Char × List Char
  | '/' :: '/' :: s => s.span fun c => c != '/' && c != '?' && c != '#'
  | s => ([], s)

/-- The parameters are those of the last segment. -/
def splitParams (path : List Char) : List Char × List Char :=
  let (last, front) := path.reverse.span (· != '/')
  let (last, params) := Url.cut ';' last.reverse
  (front.reverse ++ last, params.getD [])

/-- A number of a version to come: its version after a letter, and the number after a dot. -/
def isFuture (s : List Char) : Bool :=
  let (version, rest) := s.tail.span Host.isHexDigit
  s.head? == some 'v' && !version.isEmpty && rest.head? == some '.' && 2 ≤ rest.length

def hostDefect? (host : List Char) : Option Defect :=
  if host.head? = some 'v' then if isFuture host then none else some .future
  else if Host.isVersionFour host then some .versionFour
  else if Host.isVersionSix host then none
  else some (.number host)

/-- The characters that have a mark of an address in their compatibility form. -/
def composed : List Char :=
  ['\u2047', '\u2048', '\u2049', '\u2100', '\u2101', '\u2105', '\u2106', '\u2A74', '\uFE13',
    '\uFE16', '\uFE55', '\uFE56', '\uFE5F', '\uFE6B', '\uFF03', '\uFF0F', '\uFF1A', '\uFF1F',
    '\uFF20']

/-- Brackets come in pairs, with the number of a host in the first of them. -/
def placeDefect? (place : List Char) : Option Defect :=
  if place.contains '[' != place.contains ']' then some .brackets
  else
    let host := (Url.cut '[' place).2.map fun s => (Url.cut ']' s).1
    host.bind hostDefect? <|> if place.any composed.contains then some (.composed place) else none

/-- The parts of a reference that has a scheme of its own, or the given one. -/
def read (scheme s : List Char) : Except Defect Reference :=
  let (own, s) := splitScheme s
  let scheme := if own.isEmpty then scheme else own
  let (place, s) := splitPlace s
  match placeDefect? place with
  | some d => .error d
  | none =>
    let (s, fragment) := Url.cut '#' s
    let (path, query) := Url.cut '?' s
    let (path, params) := if hasParams? scheme = some true then splitParams path else (path, [])
    .ok ⟨scheme, place, path, params, query.getD [], fragment.getD []⟩

/-! Writing. -/

/-- A part with the mark that leads it, unless it is empty. -/
def led (mark : Char) (s : List Char) : List Char := if s.isEmpty then [] else mark :: s

/-- Every scheme in which references are relative has a place, which may be empty. -/
def placed (r : Reference) (path : List Char) : List Char :=
  if !r.place.isEmpty || !r.scheme.isEmpty || ['/', '/'].isPrefixOf path then
    '/' :: '/' :: r.place ++ (if path.head?.any (· != '/') then '/' :: path else path)
  else path

def text (r : Reference) : List Char :=
  (if r.scheme.isEmpty then [] else r.scheme ++ [':']) ++ r.placed (r.path ++ led ';' r.params) ++
    led '?' r.query ++ led '#' r.fragment

/-! Resolving. -/

/-- The segments of a path that is relative to another one, the last segment of which does not count
unless it is empty. Empty segments stay at the ends alone. -/
def segments (base path : List Char) : List (List Char) :=
  if path.head? = some '/' then path.splitOn '/'
  else
    let front := base.splitOn '/'
    let front := if front.getLast? = some [] then front else front.dropLast
    match front ++ path.splitOn '/' with
    | [] => []
    | first :: rest => first :: rest.dropLast.filter (!·.isEmpty) ++ rest.getLast?.toList

/-- What is left of segments once `.` and `..` are followed. A path that ends in one of them ends
with a slash. -/
def resolved (segments : List (List Char)) : List (List Char) :=
  let kept := segments.foldl (fun out s =>
    if s = ['.', '.'] then out.dropLast else if s = ['.'] then out else out ++ [s]) []
  if segments.getLast?.any [['.'], ['.', '.']].contains then kept ++ [[]] else kept

def merge (base path : List Char) : List Char :=
  let path := List.intercalate ['/'] (resolved (segments base path))
  if path.isEmpty then ['/'] else path

/-- A reference in the scheme of its base has what it leaves out from there. -/
def onto (base r : Reference) : Reference :=
  if !r.place.isEmpty then r
  else if r.path.isEmpty && r.params.isEmpty then
    { r with
      place := base.place, path := base.path, params := base.params,
      query := if r.query.isEmpty then base.query else r.query }
  else { r with place := base.place, path := merge base.path r.path }

def join (base reference : List Char) : Except Defect (List Char) :=
  if base.isEmpty then .ok reference
  else if reference.isEmpty then .ok base
  else do
    let b ← read [] base
    let r ← read b.scheme reference
    if r.scheme != b.scheme || (hasParams? r.scheme).isNone then return reference
    else return (onto b r).text

end Reference
end Outlier
