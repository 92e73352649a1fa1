import Mathlib.Data.List.Basic
import Outlier.Fault

/-! The details of a fault: what is given with it, overlaid with what its kind and the kinds it is a
case of have to say. -/
namespace Outlier

namespace Pairs
variable {α : Type} {name other : String} {a : α} {ps new : Pairs α}

/-- Old names keep their places, with new values where there are any. New names follow in their
order. -/
def overlay (ps new : Pairs α) : Pairs α :=
  ps.map (fun p => (p.1, (new.lookup p.1).getD p.2)) ++ new.filter fun p => p.1 ∉ ps.names

end Pairs

/-- What a subject keeps of the parts it is made from, by name. -/
def Subject.attributes : Subject → Pairs Value
  | .api m p | .transport m p => [("method", m), ("path", p)]
  | .response s b m p => [("status_code", s), ("body", b), ("method", m), ("path", p)]
  | .resource r o | .request r o | .parse r o => [("resource", r), ("operation", o)]
  | .client | .configuration | .validation _ | .invalidCid _ | .invalidConfig _ => []

namespace FaultKind

/-- The details that a kind adds to those of the kinds it is a case of, by name. -/
def adds : FaultKind → List String
  | .validation => ["field"]
  | .invalidCid => ["cid"]
  | .api => ["method", "path"]
  | .response => ["status_code"]
  | .resource => ["resource", "operation"]
  | .client | .configuration | .invalidConfig | .transport | .request | .parse => []

/-- What a kind keeps of its parts beside what the kinds it is a case of keep. -/
def keeps : FaultKind → List String
  | .api => ["method", "path"]
  | .response => ["status_code", "body"]
  | .resource => ["resource", "operation"]
  | .client | .configuration | .validation | .invalidCid | .invalidConfig | .transport | .request
  | .parse => []

/-- The parts that a fault of the kind is made from: the required one and no unknown ones. -/
def Takes (k : FaultKind) (parts : Pairs Value) : Prop :=
  k.parts.1 ∈ parts.names ∧ ∀ n ∈ parts.names, n = k.parts.1 ∨ n ∈ k.parts.2

/-- A part that is not there is null, but for the body of a response. -/
def part (parts : Pairs Value) (name : String) : Value :=
  (parts.lookup name).getD (if name = "body" then .text "" else .null)

/-- The message of a response follows from its parts, that of all other kinds is one of them. -/
def message (k : FaultKind) (parts : Pairs Value) : Value :=
  if k = .response then
    .text (Fault.responseMessage (part parts "status_code") (part parts "body"))
  else part parts "message"

/-- What a kind has to say under a name. The field of a bad identifier is known. -/
def told (k : FaultKind) (parts : Pairs Value) (name : String) : Value :=
  if k = .invalidCid ∧ name = "field" then .text "cid" else part parts name

/-- A detail that is not given is left out, unless it is the status. -/
def detail? (k : FaultKind) (parts : Pairs Value) (name : String) : Option (String × Value) :=
  if name = "status_code" ∨ (k.told parts name).isGiven then some (name, k.told parts name)
  else none

/-- The details that a kind and those it is a case of add, the nearest first. -/
def context (k : FaultKind) (parts : Pairs Value) : Pairs Value :=
  (k.lineage.flatMap adds).filterMap (k.detail? parts)

variable {k : FaultKind} {parts : Pairs Value} {name : String}

end FaultKind

namespace Fault
variable {kind : FaultKind} {parts given : Pairs Value}

end Fault
end Outlier
