import Outlier.Text.Utf8
import Outlier.Value

/-! JSON tokens, read one character at a time. -/
namespace Outlier.Json

/-- What a reader admits beyond the grammar: how deep non-empty containers nest, which numbers have
too many digits, and whether a string may hold half of a surrogate pair. -/
structure Dialect where
  depth : Option Nat
  fits : Numeral → Bool
  loneSurrogates : Bool

inductive Token where
  | listOpen | listClose | objectOpen | objectClose | comma | colon
  | scalar (v : Value)

/-- The tokens of one character. -/
def punctuation : List (Char × Token) :=
  [('[', .listOpen), (']', .listClose), ('\x7b', .objectOpen), ('\x7d', .objectClose),
    (',', .comma), (':', .colon)]

def isGap (c : Char) : Bool := c == ' ' || c == '\t' || c == '\n' || c == '\r'

/-- A bare word ends before a gap, a quote and every one-character token. -/
def endsWord (c : Char) : Bool :=
  isGap c || c == '"' || (punctuation.lookup c).isSome

def number? (d : Dialect) (negative : Bool) (s : List Char) : Option Value := do
  let n ← Numeral.ofChars? s
  guard (n.isStrict && d.fits n)
  let x := n.toDecimal
  return if n.isWhole then .int (Binary.signed negative x.coefficient)
    else .float (if negative then -x.toFloat else x.toFloat)

def infinity : Float := 1 / 0

/-- The words of the grammar and the three constants outside it. -/
def words : List (String × Value) :=
  [("null", .null), ("true", .bool true), ("false", .bool false), ("NaN", .float (0 / 0)),
    ("Infinity", .float infinity), ("-Infinity", .float (-infinity))]

def word? (d : Dialect) (s : List Char) : Option Value :=
  match words.lookup (String.ofList s) with
  | some v => some v
  | none => match s with
    | '-' :: s => number? d true s
    | s => number? d false s

def isHigh (n : Nat) : Bool := 0xD800 ≤ n && n < 0xDC00

def isLow (n : Nat) : Bool := 0xDC00 ≤ n && n < 0xE000

def pair (hi lo : Nat) : Nat := 0x10000 + (hi - 0xD800) * 0x400 + (lo - 0xDC00)

/-- Codes with each surrogate pair made one. -/
def joined : List Nat → List Nat
  | hi :: lo :: codes => if isHigh hi && isLow lo then pair hi lo :: joined codes
    else hi :: joined (lo :: codes)
  | codes => codes

def bytesOfCode (n : Nat) : List UInt8 :=
  if isHigh n || isLow n then [0xED, UInt8.ofNat (0x80 + n / 64 % 64), UInt8.ofNat (0x80 + n % 64)]
  else String.utf8EncodeChar (Char.ofNat n)

/-- The value of a string. One with half of a pair is no text and is kept as its bytes. -/
def string? (d : Dialect) (codes : List Nat) : Option Value :=
  let codes := joined codes
  if codes.any fun n => isHigh n || isLow n then
    if d.loneSurrogates then some (.bytes (codes.flatMap bytesOfCode)) else none
  else some (.text (String.ofList (codes.map Char.ofNat)))

/-- Where a scan stands: codes and characters gathered so far have the latest first. -/
inductive Scan where
  | between
  | word (chars : List Char)
  | string (codes : List Nat)
  | escape (codes : List Nat)
  | unicode (codes : List Nat) (left value : Nat)

def escapes : List (Char × Nat) :=
  [('"', 0x22), ('\\', 0x5C), ('/', 0x2F), ('b', 8), ('f', 12), ('n', 10), ('r', 13), ('t', 9)]

def hexDigit? (c : Char) : Option Nat :=
  if '0' ≤ c ∧ c ≤ '9' then some (c.toNat - 48)
  else if 'a' ≤ c ∧ c ≤ 'f' then some (c.toNat - 87)
  else if 'A' ≤ c ∧ c ≤ 'F' then some (c.toNat - 55)
  else none

/-- A character that continues nothing. -/
def begin? (c : Char) : List Token × Scan :=
  if isGap c then ([], .between)
  else if c = '"' then ([], .string [])
  else match punctuation.lookup c with
    | some t => ([t], .between)
    | none => ([], .word [c])

def scanStep (d : Dialect) : Scan → Char → Option (List Token × Scan)
  | .between, c => some (begin? c)
  | .word cs, c =>
    if endsWord c then do
      let v ← word? d cs.reverse
      let (ts, s) := begin? c
      return (.scalar v :: ts, s)
    else some ([], .word (c :: cs))
  | .string codes, c =>
    if c = '"' then (string? d codes.reverse).map fun v => ([.scalar v], .between)
    else if c = '\\' then some ([], .escape codes)
    else if c.toNat < 0x20 then none
    else some ([], .string (c.toNat :: codes))
  | .escape codes, c =>
    if c = 'u' then some ([], .unicode codes 3 0)
    else (escapes.lookup c).map fun n => ([], .string (n :: codes))
  | .unicode codes left value, c => do
    let n ← hexDigit? c
    let value := value * 16 + n
    return ([], match left with
      | 0 => .string (value :: codes)
      | left + 1 => .unicode codes left value)

def scanEnd (d : Dialect) : Scan → Option (List Token)
  | .between => some []
  | .word cs => (word? d cs.reverse).map fun v => [.scalar v]
  | _ => none

end Outlier.Json
