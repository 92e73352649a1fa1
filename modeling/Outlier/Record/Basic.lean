import Outlier.Misuse

/-! Records: their models, their fields, and what is set on them. -/
namespace Outlier

inductive Field where
  | cid | config | created | createdBy | lastModified | lastModifiedBy | metricCluster | tags
  | title
  deriving DecidableEq, Repr

inductive Shape where
  | text | integer | labels
  deriving DecidableEq, Repr

namespace Field

/-- The key in payloads. -/
def key : Field → String
  | .cid => "_cid"
  | .config => "config"
  | .created => "_created"
  | .createdBy => "_created_by"
  | .lastModified => "_last_modified"
  | .lastModifiedBy => "_last_modified_by"
  | .metricCluster => "metric_cluster"
  | .tags => "tags"
  | .title => "title"

/-- The name by which a field is set. -/
def name : Field → String
  | .cid => "cid"
  | .config => "config"
  | .created => "created"
  | .createdBy => "created_by"
  | .lastModified => "last_modified"
  | .lastModifiedBy => "last_modified_by"
  | .metricCluster => "metric_cluster_cid"
  | .tags => "tags"
  | .title => "title"

def shape : Field → Shape
  | .created | .lastModified => .integer
  | .tags => .labels
  | _ => .text

end Field

namespace Shape

def default : Shape → Value
  | .labels => .list []
  | _ => .null

end Shape

inductive Model where
  | outlierReport
  | resource
  deriving DecidableEq, Repr

namespace Model

def name : Model → String
  | .outlierReport => "OutlierReport"
  | .resource => "ResourceModel"

def fields : Model → List Field
  | .outlierReport =>
    [.cid, .config, .created, .createdBy, .lastModified, .lastModifiedBy, .metricCluster, .tags,
      .title]
  | .resource => [.cid]

/-- The field that is set under a name. -/
def field? (m : Model) (name : String) : Option Field := m.fields.find? (·.name == name)

end Model

/-- A record of a model. Values outside the model's fields are the defaults. -/
structure Record where
  model : Model
  get : Field → Value

namespace Record

def blank (m : Model) : Record := ⟨m, fun f => f.shape.default⟩

def set (r : Record) (f : Field) (v : Value) : Record :=
  { r with get := fun g => if g = f then v else r.get g }

theorem get_set_self (r : Record) (f : Field) (v : Value) : (r.set f v).get f = v := if_pos rfl

theorem get_set_of_ne (r : Record) {f g : Field} (h : g ≠ f) (v : Value) :
    (r.set f v).get g = r.get g := if_neg h

/-- Properties of every record, which are computed. -/
def properties : List String := ["model_extra", "model_fields_set", "__fields_set__"]

/-- Sets the field of a name without any check of the value. Names that begin with an underscore are
not those of fields, and setting one changes nothing. -/
def assign (r : Record) (name : String) (v : Value) : Except Misuse Record :=
  if properties.contains name then .error (.noSetter r.model.name name)
  else if name = "__class__" then .error (.notClass v.typeName)
  else if name.toList.head? = some '_' then .ok r
  else match r.model.field? name with
    | some f => .ok (r.set f v)
    | none => .error (.unknownField r.model.name name)

def appendTag (r : Record) (v : Value) : Except Misuse Record :=
  if .tags ∈ r.model.fields then match r.get .tags with
    | .list items => .ok (r.set .tags (.list (items ++ [v])))
    | held => .error (.lacks held.typeName "append")
  else .error (.lacks r.model.name "tags")

/-- Records are the same if their models are and each field holds the same value. -/
def same (r s : Record) : Bool :=
  r.model == s.model && r.model.fields.all fun f => (r.get f).same (s.get f)

end Record
end Outlier
