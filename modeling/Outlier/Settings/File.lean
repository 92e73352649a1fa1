import Outlier.Pairs
import Outlier.Text.Blank

/-! Settings files: `NAME=value` lines with comments, quoted values and references to variables. -/
namespace Outlier.SettingsFile

/-- White space within a line. -/
def isInline (c : Char) : Bool := isSpace c && c != '\n' && c != '\r'

/-- Every end of line as one line feed. -/
def unixLines : List Char → List Char
  | '\r' :: s => match s with
    | '\n' :: t => '\n' :: unixLines t
    | s => '\n' :: unixLines s
  | c :: s => c :: unixLines s
  | [] => []

def skipLine (s : List Char) : List Char := (s.dropWhile (· != '\n')).drop 1

/-- The text up to the first quote that no backslash escapes, and what follows the quote. -/
def splitQuote? (quote : Char) (escaped : Bool) : List Char → Option (List Char × List Char)
  | [] => none
  | c :: s =>
    if c = quote ∧ ¬ escaped then some ([], s)
    else (splitQuote? quote (c = '\\' && !escaped) s).map fun p => (c :: p.1, p.2)

def singleEscapes : List (Char × Char) := [('\\', '\\'), ('\'', '\'')]

def doubleEscapes : List (Char × Char) :=
  [('\\', '\\'), ('\'', '\''), ('"', '"'), ('a', '\x07'), ('b', '\x08'), ('f', '\x0C'),
    ('n', '\n'), ('r', '\r'), ('t', '\t'), ('v', '\x0B')]

/-- Backslashes that begin no escape stay. -/
def unescape (table : List (Char × Char)) : List Char → List Char
  | [] => []
  | c :: s =>
    if c = '\\' then match s with
      | [] => [c]
      | d :: t => match table.lookup d with
        | some e => e :: unescape table t
        | none => c :: unescape table (d :: t)
    else c :: unescape table s
termination_by s => s.length

/-- The text before a comment, which begins with white space and a number sign. -/
def uncommented : List Char → List Char
  | [] => []
  | c :: s =>
    if isSpace c && ((s.dropWhile isSpace).head? == some '#') then [] else c :: uncommented s

/-- A key, unless the line begins with a comment, and what follows it; or where reading failed. -/
def key : List Char → Except (List Char) (Option (List Char) × List Char)
  | '#' :: s => .ok (none, '#' :: s)
  | '\'' :: s =>
    match s.span (· != '\'') with
    | (k, _ :: t) => if k.isEmpty then .error ('\'' :: s) else .ok (some k, t)
    | _ => .error ('\'' :: s)
  | s =>
    let (k, t) := s.span fun c => c != '=' && c != '#' && !isSpace c
    if k.isEmpty then .error s else .ok (some k, t)

/-- A value and what follows it, given all that comes after the equals sign. -/
def value (s : List Char) : Except (List Char) (List Char × List Char) :=
  match s.dropWhile isInline with
  | '\'' :: t => match splitQuote? '\'' false t with
    | some (v, t) => .ok (unescape singleEscapes v, t)
    | none => .error ('\'' :: t)
  | '"' :: t => match splitQuote? '"' false t with
    | some (v, t) => .ok (unescape doubleEscapes v, t)
    | none => .error ('"' :: t)
  | _ =>
    let (v, t) := s.span (· != '\n')
    .ok (trim isSpace (uncommented v), t)

/-- What follows the end of a line, after an optional comment. -/
def lineEnd (s : List Char) : Except (List Char) (List Char) :=
  match s.dropWhile isInline with
  | [] => .ok []
  | '\n' :: t => .ok t
  | '#' :: t => .ok (skipLine t)
  | _ => .error s

def dropExport (s : List Char) : List Char :=
  let rest := s.drop 6
  if "export".toList.isPrefixOf s && rest.head?.any isInline then rest.dropWhile isInline else s

/-- A name with its value, if it has one. -/
abbrev Binding := List Char × Option (List Char)

def line (s : List Char) : Except (List Char) (Option Binding × List Char) := do
  let (k, s) ← key (dropExport s)
  let s := s.dropWhile isInline
  let (v, s) ← match s with
    | '=' :: t => (value t).map fun p => (some p.1, p.2)
    | s => pure (none, s)
  return (k.map (·, v), ← lineEnd s)

/-- The bindings of a text, whose lines are no more than the given number. Where a line cannot be
read the rest of it is skipped and it binds nothing. -/
def bindings : Nat → List Char → List Binding
  | 0, _ => []
  | n + 1, s =>
    match s.dropWhile isSpace with
    | [] => []
    | s => match line s with
      | .ok (b, rest) => b.toList ++ bindings n rest
      | .error rest => bindings n (skipLine rest)

/-- A reference after its opening brace: the name, what stands for it if it is not set, and what
follows. -/
def reference? (s : List Char) : Option (List Char × List Char × List Char) :=
  let (name, rest) := s.span fun c => c != '\x7d' && c != ':'
  match rest with
  | ':' :: '-' :: t => match t.span (· != '\x7d') with
    | (absent, _ :: t) => some (name, absent, t)
    | _ => none
  | '\x7d' :: t => some (name, [], t)
  | _ => none

/-- Replaces references; `skip` counts the characters that one has used up. -/
def interpolate (look : String → Option String) : Nat → List Char → List Char
  | _, [] => []
  | skip + 1, _ :: s => interpolate look skip s
  | 0, c :: s =>
    let opened := match c, s with
      | '$', '\x7b' :: t => reference? t
      | _, _ => none
    match opened with
    | some (name, absent, rest) =>
      ((look (String.ofList name)).map String.toList).getD absent ++
        interpolate look (s.length - rest.length) s
    | none => c :: interpolate look 0 s

/-- What a name stands for: an earlier binding of the file, or else a variable. A name bound without
a value stands for nothing. -/
def look (exported : Pairs String) (bound : Pairs (Option String)) (name : String) :
    Option String :=
  match bound.lookup name with
  | some v => some (v.getD "")
  | none => exported.lookup name

def bind (exported : Pairs String) (bound : Pairs (Option String)) (b : Binding) :
    Pairs (Option String) :=
  bound.put (String.ofList b.1)
    (b.2.map fun v => String.ofList (interpolate (look exported bound) 0 v))

/-- A byte order mark in front is no part of a text. -/
def dropMark : List Char → List Char
  | '\uFEFF' :: s => s
  | s => s

/-- The names that a file binds, with their values; of several bindings of a name the last holds. -/
def read (exported : Pairs String) (text : String) : Pairs (Option String) :=
  let s := unixLines (dropMark text.toList)
  (bindings s.length s).foldl (bind exported) []

end Outlier.SettingsFile
