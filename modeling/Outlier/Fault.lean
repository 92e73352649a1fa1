import Outlier.Misuse

/-! Faults of the client, each with details that the class of fault extends. -/
namespace Outlier

inductive FaultKind where
  | client | configuration | validation | invalidCid | invalidConfig
  | api | response | transport | resource | request | parse
  deriving DecidableEq, Repr

namespace FaultKind

def name : FaultKind → String
  | .client => "CirconusClientException"
  | .configuration => "ConfigurationError"
  | .validation => "ValidationError"
  | .invalidCid => "InvalidCIDError"
  | .invalidConfig => "InvalidConfigError"
  | .api => "APIError"
  | .response => "APIResponseError"
  | .transport => "APITransportError"
  | .resource => "ResourceError"
  | .request => "ResourceRequestError"
  | .parse => "ResourceParseError"

/-- The kind and those it is a case of, the nearest first. -/
def lineage : FaultKind → List FaultKind
  | .client => [.client]
  | .configuration => [.configuration, .client]
  | .validation => [.validation, .client]
  | .invalidCid => [.invalidCid, .validation, .client]
  | .invalidConfig => [.invalidConfig, .validation, .client]
  | .api => [.api, .client]
  | .response => [.response, .api, .client]
  | .transport => [.transport, .api, .client]
  | .resource => [.resource, .client]
  | .request => [.request, .resource, .client]
  | .parse => [.parse, .resource, .client]

def listed : List FaultKind :=
  [.client, .configuration, .validation, .invalidCid, .invalidConfig, .api, .response, .transport,
    .resource, .request, .parse]

def ofName? (name : String) : Option FaultKind := listed.find? (·.name == name)

/-- The names of what a fault is made from, in order. The first is required. -/
def parts : FaultKind → String × List String
  | .client | .configuration => ("message", [])
  | .validation | .invalidConfig => ("message", ["field"])
  | .invalidCid => ("message", ["cid"])
  | .api | .transport => ("message", ["method", "path"])
  | .response => ("status_code", ["body", "method", "path"])
  | .resource | .request | .parse => ("message", ["resource", "operation"])

/-- The kind that a kind has its parts from. -/
def model (k : FaultKind) : FaultKind := (k.lineage.filter (·.parts == k.parts)).getLast?.getD k

end FaultKind

/-- What a fault is about, as far as its kind has a place for it. Null stands for what is not
known. -/
inductive Subject where
  | client
  | configuration
  | validation (field : Value)
  | invalidCid (cid : Value)
  | invalidConfig (field : Value)
  | api (method path : Value)
  | response (status body method path : Value)
  | transport (method path : Value)
  | resource (resource operation : Value)
  | request (resource operation : Value)
  | parse (resource operation : Value)

namespace Subject

def kind : Subject → FaultKind
  | .client => .client
  | .configuration => .configuration
  | .validation _ => .validation
  | .invalidCid _ => .invalidCid
  | .invalidConfig _ => .invalidConfig
  | .api .. => .api
  | .response .. => .response
  | .transport .. => .transport
  | .resource .. => .resource
  | .request .. => .request
  | .parse .. => .parse

/-- A detail that is given. -/
def detail (name : String) (v : Value) : Pairs Value := if v.isGiven then [(name, v)] else []

def route (method path : Value) : Pairs Value := detail "method" method ++ detail "path" path

def task (resource operation : Value) : Pairs Value :=
  detail "resource" resource ++ detail "operation" operation

/-- The details that a subject sets, in order. The status is always among them. -/
def context : Subject → Pairs Value
  | .client | .configuration => []
  | .validation field | .invalidConfig field => detail "field" field
  | .invalidCid cid => detail "cid" cid ++ [("field", .text "cid")]
  | .api method path | .transport method path => route method path
  | .response status _ method path => ("status_code", status) :: route method path
  | .resource r o | .request r o | .parse r o => task r o

/-- The subject of a kind, by the names of its parts. -/
def ofParts (given : Pairs Value) : FaultKind → Subject
  | .client => .client
  | .configuration => .configuration
  | .validation => .validation (part "field")
  | .invalidCid => .invalidCid (part "cid")
  | .invalidConfig => .invalidConfig (part "field")
  | .api => .api (part "method") (part "path")
  | .response => .response (part "status_code") ((given.lookup "body").getD (.text ""))
      (part "method") (part "path")
  | .transport => .transport (part "method") (part "path")
  | .resource => .resource (part "resource") (part "operation")
  | .request => .request (part "resource") (part "operation")
  | .parse => .parse (part "resource") (part "operation")
where
  part (name : String) : Value := (given.lookup name).getD .null

end Subject

/-- A fault. Its message is a text, unless whoever made it gave something else. -/
structure Fault where
  subject : Subject
  message : Value
  details : Pairs Value

namespace Fault

/-- The details given with a fault are overlaid with its context. -/
def make (subject : Subject) (message : Value) (given : Pairs Value) : Fault :=
  ⟨subject, message, Pairs.putAll given subject.context⟩

/-- The message of a response fault follows from its status and body. -/
def responseMessage (status body : Value) : String :=
  "API response code " ++ status.plain ++ ": " ++ body.plain

/-- The fault of a response with a status and a body to a method on a path. -/
def response (status : Int) (body method path : String) : Fault :=
  make (.response (.int status) (.text body) (.text method) (.text path))
    (.text (responseMessage (.int status) (.text body))) []

/-- A fault of a kind, from its parts by name and the details given with it. -/
def ofParts (kind : FaultKind) (parts details : Pairs Value) : Except Misuse Fault :=
  let (required, optional) := kind.parts
  let maker := kind.model.name ++ ".__init__()"
  match parts.find? fun p => p.1 != required && !optional.contains p.1 with
  | some (name, _) => .error (.unexpected maker name)
  | none => match parts.lookup required with
    | none => .error (.missing maker required)
    | some first =>
      let subject := Subject.ofParts parts kind
      .ok (make subject (match subject with
        | .response status body .. => .text (responseMessage status body)
        | _ => first) details)

def kind (f : Fault) : FaultKind := f.subject.kind

/-- The message, with the details behind it if there are any. A message on its own must be text. -/
def text (f : Fault) : Except Misuse String :=
  if f.details.isEmpty then match f.message with
    | .text s => .ok s
    | v => .error (.notPrintable v.typeName)
  else .ok (f.message.plain ++ " | Details: " ++ (Value.object f.details).quoted)

/-- What the giver's details hold once the fault is made: a fault takes over a collection that holds
something and leaves an empty one alone. -/
def leaves (given : Option (Pairs Value)) (f : Fault) : Option (Pairs Value) :=
  given.map fun ps => if ps.isEmpty then ps else f.details

end Fault
end Outlier
