import Outlier.Coercion
import Outlier.Json.Reader
import Outlier.Record.Basic

/-! Records of data and of JSON bodies. -/
namespace Outlier

namespace Shape

/-- The issues of a value are placed relative to it. -/
abbrev Verdict := Except (List Issue) Value

def single {α : Type} (make : α → Value) : Coercion.Result α → Verdict
  | .ok a => .ok (make a)
  | .error k => .error [⟨k, []⟩]

/-- The labels of a list, or the issue of each item that is none. -/
def readLabels (n : Nat) : List Value → Except (List Issue) (List Value)
  | [] => .ok []
  | v :: vs => match Coercion.text v, readLabels (n + 1) vs with
    | .ok s, .ok rest => .ok (.text s :: rest)
    | .ok _, .error is => .error is
    | .error k, .ok _ => .error [⟨k, [.index n]⟩]
    | .error k, .error is => .error (⟨k, [.index n]⟩ :: is)

/-- Null stands for the default. -/
def read : Shape → Value → Verdict
  | s, .null => .ok s.default
  | .text, v => single .text (Coercion.text v)
  | .integer, v => single .int (Coercion.integer v)
  | .labels, .list items => (readLabels 0 items).map .list
  | .labels, _ => .error [⟨.notList, []⟩]

end Shape

namespace Record

/-- The value for a field and the key it came under; the payload key goes before the name. -/
def select (members : Pairs Value) (f : Field) : Option (String × Value) :=
  match members.lookup f.key with
  | some v => some (f.key, v)
  | none => (members.lookup f.name).map (f.name, ·)

def readField (members : Pairs Value) (f : Field) : Shape.Verdict :=
  match select members f with
  | none => .ok f.shape.default
  | some (key, v) => (f.shape.read v).mapError (·.map (·.within (.key key)))

def issuesOf {ε α : Type} : Except (List ε) α → List ε
  | .ok _ => []
  | .error es => es

def built (members : Pairs Value) (m : Model) : Record where
  model := m
  get f := if f ∈ m.fields then (readField members f).toOption.getD f.shape.default
    else f.shape.default

/-- The record of a value, or every issue in the order of fields. It makes no difference whether the
value was at hand or was read from a body: text, numbers, truth values, lists, objects and null are
taken by the same rules in both cases, and bytes, which are text only in a value at hand, are what no
body holds. -/
def validate (m : Model) : Value → Except (List Issue) Record
  | .object members =>
    let issues := m.fields.flatMap fun f => issuesOf (readField members f)
    if issues.isEmpty then .ok (built members m) else .error issues
  | _ => .error [⟨.notRecord, []⟩]

/-- The records of list items, or every issue under the index of its item. -/
def validateItems (m : Model) (n : Nat) : List Value → Except (List Issue) (List Record)
  | [] => .ok []
  | v :: vs => match validate m v, validateItems m (n + 1) vs with
    | .ok r, .ok rest => .ok (r :: rest)
    | r, rest => .error ((issuesOf r).map (·.within (.index n)) ++ issuesOf rest)

/-- Null counts as the empty list. -/
def validateAll (m : Model) : Value → Except (List Issue) (List Record)
  | .null => .ok []
  | .list items => validateItems m 0 items
  | _ => .error [⟨.notList, []⟩]

def collectionTitle (m : Model) : String := "nullable[list[" ++ m.name ++ "]]"

def reject {α : Type} (title : String) : Except (List Issue) α → Except Rejection α :=
  Except.mapError (⟨title, ·⟩)

/-- The record of a value at hand. -/
def ofValue (m : Model) (v : Value) : Except Rejection Record := reject m.name (validate m v)

def readWith {α : Type} (read : Value → Except (List Issue) α) (body : List UInt8) :
    Except (List Issue) α :=
  match Json.readBytes? body with
  | some v => read v
  | none => .error [⟨.invalidJson, []⟩]

/-- The record of what a body holds. -/
def ofBody (m : Model) (body : List UInt8) : Except Rejection Record :=
  reject m.name (readWith (validate m) body)

def allOfBody (m : Model) (body : List UInt8) : Except Rejection (List Record) :=
  reject (collectionTitle m) (readWith (validateAll m) body)

end Record
end Outlier
