import Outlier.Exchange.Host
import Outlier.Number.Digit

/-! Addresses by their parts, and the addresses of requests under a base address. -/
namespace Outlier

/-- Whom an address is at. A port that the scheme implies is left out. -/
structure Authority where
  user : List Char
  host : List Char
  port : Option Int
  deriving DecidableEq, Repr

/-- An address by its parts, each with what it cannot hold escaped. An empty query or fragment is
not the same as none. -/
structure Url where
  scheme : List Char
  authority : Authority
  path : List Char
  query : Option (List Char)
  fragment : Option (List Char)
  deriving DecidableEq, Repr

namespace Url

inductive Defect where
  | tooLong
  | longPart (name : String)
  | unprintable (c : Char) (position : Nat)
  | unprintablePart (name : String) (c : Char) (position : Nat)
  | host (written : List Char) (d : Host.Defect)
  | port (written : List Char)
  | relativePath
  | doubleSlash
  | leadingColon
  deriving DecidableEq, Repr

namespace Defect

def shown (s : List Char) : String := Quoted.text (String.ofList s)

def mark (c : Char) (n : Nat) : String := shown [c] ++ " at position " ++ toString n ++ "."

def hostKind : Host.Defect → String
  | .fourParts => "IPv4 address"
  | .brackets => "IPv6 address"
  | .name _ => "IDNA hostname"

def message : Defect → String
  | .tooLong => "URL too long"
  | .longPart name => "URL component '" ++ name ++ "' too long"
  | .unprintable c n => "Invalid non-printable ASCII character in URL, " ++ mark c n
  | .unprintablePart name c n =>
    "Invalid non-printable ASCII character in URL " ++ name ++ " component, " ++ mark c n
  | .host written d => "Invalid " ++ hostKind d ++ ": " ++ shown written
  | .port written => "Invalid port: " ++ shown written
  | .relativePath => "For absolute URLs, path must be empty or begin with '/'"
  | .doubleSlash => "Relative URLs cannot have a path starting with '//'"
  | .leadingColon => "Relative URLs cannot have a path starting with ':'"

end Defect

/-- The bound on an address as written, and on each part of one that is put together. -/
def longest : Nat := 65536

def isControl (c : Char) : Bool := c.toNat < 0x20 || c.toNat == 0x7F

def control? (s : List Char) : Option (Char × Nat) := s.zipIdx.find? (isControl ·.1)

def defect? (s : List Char) : Option Defect :=
  if longest < s.length then some .tooLong
  else (control? s).map fun p => .unprintable p.1 p.2

def partDefect? (name : String) (s : List Char) : Option Defect :=
  if longest < s.length then some (.longPart name)
  else (control? s).map fun p => .unprintablePart name p.1 p.2

/-! The marks that a part holds only in escaped form. -/

def userMarks : List Char :=
  [' ', '"', '#', '<', '>', '?', '\x60', '\x7b', '\x7d', '/', ';', '=', '@', '[', '\\', ']', '^',
    '|']

def pathMarks : List Char := [' ', '"', '#', '<', '>', '?', '\x60', '\x7b', '\x7d']

def queryMarks : List Char := [' ', '"', '#', '<', '>']

def fragmentMarks : List Char := [' ', '"', '<', '>', '\x60']

/-- Resolves `.` and `..` among the segments of a path. -/
def resolve (path : List Char) : List Char :=
  let segments := path.splitOn '/'
  if segments.contains ['.'] || segments.contains ['.', '.'] then
    let kept := segments.foldl (fun out s =>
      if s = ['.'] then out
      else if s = ['.', '.'] then (if out = [] ∨ out = [[]] then out else out.dropLast)
      else out ++ [s]) []
    List.intercalate ['/'] kept
  else path

/-! Reading. -/

/-- The text before the first of a mark, and the text after it. -/
def cut (mark : Char) (s : List Char) : List Char × Option (List Char) :=
  match s.span (· != mark) with
  | (front, []) => (front, none)
  | (front, _ :: rest) => (front, some rest)

def isSchemeChar (c : Char) : Bool := c.isAlphanum || c == '+' || c == '.' || c == '-'

/-- A scheme, which may be empty, ends with a colon. -/
def splitScheme (s : List Char) : List Char × List Char :=
  match cut ':' s with
  | (scheme, some rest) =>
    if scheme.all isSchemeChar && scheme.head?.all Char.isAlpha then (scheme, rest) else ([], s)
  | _ => ([], s)

def splitAuthority : List Char → List Char × List Char
  | '/' :: '/' :: s => s.span (· != '/')
  | s => ([], s)

/-- The user before the last at sign, if there is one, and the rest. -/
def splitUser (s : List Char) : List Char × List Char :=
  match s.reverse.span (· != '@') with
  | (_, []) => ([], s)
  | (rest, _ :: user) => (user.reverse, rest.reverse)

/-- A host in brackets ends with the last of them. -/
def splitHost (s : List Char) : List Char × List Char :=
  if s.head? = some '[' ∧ s.contains ']' then
    let (rest, host) := s.reverse.span (· != ']')
    (host.reverse, rest.reverse)
  else s.span (· != ':')

def impliedPorts : List (String × Int) :=
  [("ftp", 21), ("http", 80), ("https", 443), ("ws", 80), ("wss", 443)]

/-- The port that is written, unless the scheme as it is written implies it. -/
def readPort (scheme written : List Char) : Except Defect (Option Int) :=
  if written.isEmpty then .ok none
  else match Digit.integer? written with
    | some n => .ok (if impliedPorts.lookup (String.ofList scheme) = some n then none else some n)
    | none => .error (.port written)

def readAuthority (scheme s : List Char) : Except Defect Authority := do
  let (user, s) := splitUser s
  let (written, s) := splitHost s
  let host ← (Host.read written).mapError (.host written)
  let port ← readPort scheme (if s.head? = some ':' then s.tail else s)
  return ⟨Percent.escape userMarks user, host, port⟩

def nobody : Authority := ⟨[], [], none⟩

/-- An address of its parts as they are written. -/
def make (scheme authority path : List Char) (query fragment : Option (List Char)) :
    Except Defect Url := do
  let authority ← readAuthority scheme authority
  let make (path : List Char) : Url :=
    ⟨scheme.map Char.toLower, authority, Percent.escape pathMarks path,
      query.map (Percent.escape queryMarks), fragment.map (Percent.escape fragmentMarks)⟩
  if authority != nobody && path.head?.any (· != '/') then .error .relativePath
  else if scheme.isEmpty && authority == nobody then
    if ['/', '/'].isPrefixOf path then .error .doubleSlash
    else if path.head? = some ':' then .error .leadingColon
    else .ok (make path)
  else .ok (make (resolve path))

def readChars (s : List Char) : Except Defect Url :=
  match defect? s with
  | some d => .error d
  | none =>
    let (s, fragment) := cut '#' s
    let (s, query) := cut '?' s
    let (scheme, s) := splitScheme s
    let (authority, path) := splitAuthority s
    make scheme authority path query fragment

def read (s : String) : Except Defect Url := readChars s.toList

/-! Writing. -/

/-- A part with the mark that leads it, if there is one. -/
def led (mark : Char) : Option (List Char) → List Char
  | none => []
  | some s => mark :: s

def authorityChars (a : Authority) : List Char :=
  (if a.user.isEmpty then [] else a.user ++ ['@']) ++ Host.written a.host ++
    led ':' (a.port.map Numeral.ofInt)

def toChars (u : Url) : List Char :=
  let authority := authorityChars u.authority
  (if u.scheme.isEmpty then [] else u.scheme ++ [':']) ++
    (if authority.isEmpty then [] else '/' :: '/' :: authority) ++ u.path ++ led '?' u.query ++
    led '#' u.fragment

def text (u : Url) : String := String.ofList u.toChars

/-! Putting together: what has changed is read again, along with what has not. -/

/-- The address of checked parts. -/
def remake (scheme authority path : List Char) (query fragment : Option (List Char)) :
    Except Defect Url :=
  let parts := [("scheme", scheme), ("authority", authority), ("path", path),
    ("query", query.getD []), ("fragment", fragment.getD [])]
  match parts.findSome? fun p => partDefect? p.1 p.2 with
  | some d => .error d
  | none => make scheme authority path query fragment

/-- The path, which is never empty here, and the query. -/
def target (u : Url) : List Char :=
  (if u.path.isEmpty then ['/'] else u.path) ++ led '?' u.query

def withTarget (u : Url) (target : List Char) : Except Defect Url :=
  let (path, query) := cut '?' target
  remake u.scheme (authorityChars u.authority) path query u.fragment

def withHost (u : Url) (host : List Char) : Except Defect Url :=
  remake u.scheme (authorityChars { u.authority with host }) u.path u.query u.fragment

def withFragment (u : Url) (fragment : List Char) : Except Defect Url :=
  remake u.scheme (authorityChars u.authority) u.path u.query (some fragment)

def isAbsolute (u : Url) : Bool := !u.scheme.isEmpty && !u.authority.host.isEmpty

/-- A base address, whose target ends with a slash. -/
def readBase (s : String) : Except Defect Url := do
  let u ← read s
  if u.target.getLast? = some '/' then return u else u.withTarget (u.target ++ ['/'])

/-- The address of a request: its target without slashes in front is appended to that of the base,
unless it is an address of its own. -/
def join (base : Url) (path : String) : Except Defect Url := do
  let u ← read path
  if u.isAbsolute then return u else base.withTarget (base.target ++ u.target.dropWhile (· == '/'))

/-- The host, of which an encoded name is read. -/
def hostName (u : Url) : Except Hostname.Defect (List Char) :=
  if Hostname.lead.isPrefixOf u.authority.host then Hostname.read u.authority.host
  else .ok u.authority.host

/-- Whether the text of an address names its kind: it reaches to a colon before any slash. -/
def hasType (u : Url) : Bool :=
  let (type, rest) := u.toChars.span fun c => c != ':' && c != '/'
  !type.isEmpty && rest.head? == some ':'

end Url
end Outlier
