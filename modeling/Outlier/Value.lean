import Outlier.Number.Numeral
import Outlier.Pairs
import Outlier.Text.Quoted

/-! Dynamic values: what records, error details and settings are made from. -/
namespace Outlier

inductive Value where
  | null
  | bool (b : Bool)
  | int (n : Int)
  | float (x : Float)
  | text (s : String)
  | bytes (bs : List UInt8)
  | list (items : List Value)
  | object (members : List (String × Value))

namespace Value

instance : Inhabited Value := ⟨.null⟩

def ofOption : Option String → Value
  | none => .null
  | some s => .text s

/-- Zero, the empty value of each type and null do not count as given. -/
def isGiven : Value → Bool
  | .null => false
  | .bool b => b
  | .int n => n != 0
  | .float x => x != 0
  | .text s => s != ""
  | .bytes bs => !bs.isEmpty
  | .list items => !items.isEmpty
  | .object members => !members.isEmpty

/-- The word for the type in messages. -/
def typeName : Value → String
  | .null => "NoneType"
  | .bool _ => "bool"
  | .int _ => "int"
  | .float _ => "float"
  | .text _ => "str"
  | .bytes _ => "bytes"
  | .list _ => "list"
  | .object _ => "dict"

/-- Truth values count as 0 and 1. -/
def int? : Value → Option Int
  | .bool b => some b.toNat
  | .int n => some n
  | _ => none

mutual

/-- Equality of contents: numbers of all types by their exact value, objects in any order. -/
def same : Value → Value → Bool
  | .null, .null => true
  | .text s, .text t => s == t
  | .bytes s, .bytes t => s == t
  | .list xs, .list ys => sameItems xs ys
  | .object xs, .object ys => xs.length == ys.length && sameMembers xs ys
  | .float x, .float y => x == y
  | .float x, v => v.int?.any fun n => (Binary.ofFloat x).toInt? == some n
  | v, .float y => v.int?.any fun n => (Binary.ofFloat y).toInt? == some n
  | .bool b, v => v.int?.any fun n : Int => n == b.toNat
  | .int n, v => v.int?.any (· == n)
  | _, _ => false

def sameItems : List Value → List Value → Bool
  | [], [] => true
  | x :: xs, y :: ys => same x y && sameItems xs ys
  | _, _ => false

def sameMembers : List (String × Value) → List (String × Value) → Bool
  | [], _ => true
  | (k, x) :: xs, ys => (match ys.lookup k with
    | some y => same x y
    | none => false) && sameMembers xs ys

end

/-- Floats are positional from `1e-4` up to below `1e16`. -/
def floats : Layout := ⟨-4, 16, "inf", "nan"⟩

def truth (b : Bool) : String := if b then "True" else "False"

mutual

/-- The text of a value inside another one. -/
def quoted : Value → String
  | .null => "None"
  | .bool b => truth b
  | .int n => String.ofList (Numeral.ofInt n)
  | .float x => floats.write x
  | .text s => Quoted.text s
  | .bytes bs => Quoted.bytes bs
  | .list items => "[" ++ ", ".intercalate (quotedItems items) ++ "]"
  | .object members => "\x7b" ++ ", ".intercalate (quotedMembers members) ++ "\x7d"

def quotedItems : List Value → List String
  | [] => []
  | v :: vs => quoted v :: quotedItems vs

def quotedMembers : List (String × Value) → List String
  | [] => []
  | (k, v) :: ms => (Quoted.text k ++ ": " ++ quoted v) :: quotedMembers ms

end

/-- The text of a value on its own: text stands without quotes. -/
def plain : Value → String
  | .text s => s
  | v => v.quoted

end Value
end Outlier
