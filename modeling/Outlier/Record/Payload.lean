import Outlier.Json.Printer
import Outlier.Record.Basic
import Outlier.Text.Utf8

/-! Payloads: what of a record goes into a request. -/
namespace Outlier.Record

/-- Null, zero and what holds nothing; truth values and floats never are. -/
def isEmpty : Value → Bool
  | .null => true
  | .text s => s.isEmpty
  | .list items => items.isEmpty
  | .object members => members.isEmpty
  | .int n => n == 0
  | _ => false

/-- How deep values may nest below a field, a value in none counted as one level. -/
def deepest : Nat := 255

def bytesValue (bs : List UInt8) : Except Misuse Value :=
  match Utf8.decode? bs with
  | some s => .ok (.text s)
  | none => match Utf8.malformed? bs with
    | some (position, part) => .error (.malformed part position)
    | none => .ok (.text "")

mutual

/-- A value as JSON can hold it: bytes as their text, and null for what is no finite number. -/
def plainValue (depth : Nat) (v : Value) : Except Misuse Value :=
  if deepest < depth then .error .tooDeep
  else match v with
    | .bytes bs => bytesValue bs
    | .float x => .ok (if (Binary.ofFloat x).isFinite then .float x else .null)
    | .list items => .list <$> plainItems (depth + 1) items
    | .object members => .object <$> plainMembers (depth + 1) members
    | v => .ok v

def plainItems (depth : Nat) : List Value → Except Misuse (List Value)
  | [] => .ok []
  | v :: vs => do return (← plainValue depth v) :: (← plainItems depth vs)

def plainMembers (depth : Nat) : List (String × Value) → Except Misuse (List (String × Value))
  | [] => .ok []
  | (k, v) :: ms => do return (k, ← plainValue depth v) :: (← plainMembers depth ms)

end

/-- A truth value in an integer field is written as 1 or 0. A list of labels is no level of its
own. -/
def payloadValue : Shape → Value → Except Misuse Value
  | .integer, .bool b => .ok (.int b.toNat)
  | .labels, .list items => .list <$> plainItems 1 items
  | _, v => plainValue 1 v

def payload (r : Record) : Except Misuse (Pairs Value) := do
  let all ← r.model.fields.mapM fun f => do return (f.key, ← payloadValue f.shape (r.get f))
  return all.filter fun p => !isEmpty p.2

def json (r : Record) : Except Misuse String := (Json.text <| .object ·) <$> r.payload

/-- The body of a request that carries the record. -/
def body (r : Record) : Except Misuse (List UInt8) := Utf8.encode <$> r.json

end Outlier.Record
