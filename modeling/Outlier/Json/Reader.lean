import Outlier.Json.Token

/-! Reading JSON: tokens feed a stack of open containers. -/
namespace Outlier.Json

/-- An open container. List items have the latest first; a member waits for its value. -/
inductive Frame where
  | list (items : List Value)
  | object (members : Pairs Value)
  | member (members : Pairs Value) (key : String)

/-- What the next token must be; a container may close at once only when it is empty. -/
inductive Due where
  | value (mayClose : Bool)
  | key (mayClose : Bool)
  | colon
  | next
  | nothing (result : Value)

structure Build where
  stack : List Frame
  due : Due

/-- Puts a finished value where it belongs; a repeated key takes the last value. -/
def place (v : Value) : List Frame → Option Build
  | [] => some ⟨[], .nothing v⟩
  | .list items :: fs => some ⟨.list (v :: items) :: fs, .next⟩
  | .member members key :: fs => some ⟨.object (Pairs.put key v members) :: fs, .next⟩
  | .object _ :: _ => none

def key? : Value → Option String
  | .text s => some s
  | .bytes bs => some (Utf8.decodeLossy bs)
  | _ => none

def close (t : Token) : List Frame → Option Build
  | .list items :: fs => match t with
    | .listClose => place (.list items.reverse) fs
    | _ => none
  | .object members :: fs => match t with
    | .objectClose => place (.object members) fs
    | _ => none
  | _ => none

def Token.closes : Token → Bool
  | .listClose | .objectClose => true
  | _ => false

/-- A container of no members may stand one level deeper than any other. -/
def tooDeep (d : Dialect) (stack : List Frame) (t : Token) : Bool :=
  !t.closes && d.depth.any (· < stack.length)

def buildStep (d : Dialect) (b : Build) (t : Token) : Option Build :=
  if tooDeep d b.stack t then none
  else match b.due, t with
    | .value _, .scalar v => place v b.stack
    | .value _, .listOpen => some ⟨.list [] :: b.stack, .value true⟩
    | .value _, .objectOpen => some ⟨.object [] :: b.stack, .key true⟩
    | .value true, .listClose => close t b.stack
    | .key true, .objectClose => close t b.stack
    | .key _, .scalar v => match b.stack with
      | .object members :: fs => (key? v).map fun k => ⟨.member members k :: fs, .colon⟩
      | _ => none
    | .colon, .colon => some { b with due := .value false }
    | .next, .comma => match b.stack with
      | .list _ :: _ => some { b with due := .value false }
      | .object _ :: _ => some { b with due := .key false }
      | _ => none
    | .next, t => close t b.stack
    | _, _ => none

structure Reading where
  scan : Scan
  build : Build

def Reading.start : Reading := ⟨.between, ⟨[], .value false⟩⟩

def readStep (d : Dialect) (r : Reading) (c : Char) : Option Reading := do
  let (ts, s) ← scanStep d r.scan c
  let b ← ts.foldlM (buildStep d) r.build
  return ⟨s, b⟩

def readEnd (d : Dialect) (r : Reading) : Option Value := do
  let ts ← scanEnd d r.scan
  match ← ts.foldlM (buildStep d) r.build with
  | ⟨[], .nothing v⟩ => some v
  | _ => none

def readChars? (d : Dialect) (s : List Char) : Option Value := do
  readEnd d (← s.foldlM (readStep d) .start)

/-- The longest whole part of a number. -/
def longest : Nat := 4300

/-- Message bodies: bounded depth, and a bound on the whole part of every number. -/
def strict : Dialect where
  depth := some 200
  fits n := n.whole.length ≤ longest
  loneSurrogates := false

/-- Settings: a bound on the digits of integers alone. -/
def lenient : Dialect where
  depth := none
  fits n := !n.isWhole || n.whole.length ≤ longest
  loneSurrogates := true

/-- The value of a body, which must be UTF-8. -/
def readBytes? (bs : List UInt8) : Option Value := Utf8.decodeChars? bs >>= readChars? strict

/-- The value of a setting written as JSON. -/
def readText? (s : String) : Option Value := readChars? lenient s.toList

end Outlier.Json
