import Outlier.Value

/-! Printing JSON in ASCII, with a space after each comma and colon. -/
namespace Outlier.Json

def printable : List (Char × Char) :=
  [('"', '"'), ('\\', '\\'), ('\n', 'n'), ('\r', 'r'), ('\t', 't'), ('\x08', 'b'), ('\x0C', 'f')]

def unicodeEscape (n : Nat) : List Char := '\\' :: 'u' :: Quoted.hex 4 n

/-- Characters above U+FFFF take a surrogate pair. -/
def printChar (c : Char) : List Char :=
  match printable.lookup c with
  | some e => ['\\', e]
  | none =>
    let n := c.toNat
    if 0x20 ≤ n ∧ n < 0x7F then [c]
    else if n < 0x10000 then unicodeEscape n
    else unicodeEscape (0xD800 + (n - 0x10000) / 0x400) ++
      unicodeEscape (0xDC00 + (n - 0x10000) % 0x400)

def printText (s : String) : List Char := '"' :: s.toList.flatMap printChar ++ ['"']

/-- Floats as in plain text, but with the words of JSON readers for infinity and NaN. -/
def floats : Layout := { Value.floats with infinity := "Infinity", nan := "NaN" }

mutual

/-- Bytes have no form in JSON and count as null. -/
def print : Value → List Char
  | .null | .bytes _ => "null".toList
  | .bool b => (if b then "true" else "false").toList
  | .int n => Numeral.ofInt n
  | .float x => (floats.write x).toList
  | .text s => printText s
  | .list items => '[' :: printItems items ++ [']']
  | .object members => '\x7b' :: printMembers members ++ ['\x7d']

def printItems : List Value → List Char
  | [] => []
  | [v] => print v
  | v :: vs => print v ++ ',' :: ' ' :: printItems vs

def printMembers : List (String × Value) → List Char
  | [] => []
  | [(k, v)] => printText k ++ ':' :: ' ' :: print v
  | (k, v) :: ms => printText k ++ ':' :: ' ' :: print v ++ ',' :: ' ' :: printMembers ms

end

def text (v : Value) : String := String.ofList (print v)

end Outlier.Json
