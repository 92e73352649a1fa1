import Outlier.Fault
import Outlier.Text.Utf8

/-! Search criteria and their form encoding. -/
namespace Outlier.Search

/-- A bare text is one value; anything else stands for its items. -/
def values : Value → Except Misuse (List Value)
  | .text s => .ok [.text s]
  | .list items => .ok items
  | .object members => .ok (members.map fun p => .text p.1)
  | .bytes bs => .ok (bs.map fun b => .int b.toNat)
  | v => .error (.notIterable v.typeName)

def filterCriteria (filters : Pairs Value) : Except Misuse (List (String × Value)) := do
  let groups ← filters.mapM fun p => (values p.2).map fun vs => vs.map (p.1, ·)
  return groups.flatten

/-- The query goes first, under a name that a filter may have too. -/
def criteria (query : Option String) (filters : Pairs Value) :
    Except Misuse (List (String × Value)) :=
  (Subject.detail "search" (.ofOption query) ++ ·) <$> filterCriteria filters

/-- ASCII letters, digits and four marks stand for themselves. -/
def isUnreserved (b : UInt8) : Bool :=
  let c := Char.ofNat b.toNat
  c.isAlphanum || c == '_' || c == '.' || c == '-' || c == '~'

def hexDigit (n : Nat) : Char := (Nat.digitChar n).toUpper

def encodeByte (b : UInt8) : List Char :=
  if isUnreserved b then [Char.ofNat b.toNat]
  else if b = 0x20 then ['+']
  else ['%', hexDigit (b.toNat / 16), hexDigit (b.toNat % 16)]

def encodeBytes (bs : List UInt8) : List Char := bs.flatMap encodeByte

def encodeText (s : String) : List Char := encodeBytes (Utf8.encode s)

def encodeValue : Value → List Char
  | .bytes bs => encodeBytes bs
  | v => encodeText v.plain

/-- Criteria by name in the order of codes; those of one name keep their order. -/
def sorted (ps : List (String × Value)) : List (String × Value) :=
  ps.mergeSort fun p q => p.1 ≤ q.1

def encodePair (p : String × Value) : List Char := encodeText p.1 ++ '=' :: encodeValue p.2

def encodeChars (ps : List (String × Value)) : List Char :=
  List.intercalate ['&'] ((sorted ps).map encodePair)

def encode (ps : List (String × Value)) : String := String.ofList (encodeChars ps)

end Outlier.Search
