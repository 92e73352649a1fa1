import Outlier.Cid
import Outlier.Exchange.Client
import Outlier.Record.Payload
import Outlier.Record.Validation
import Outlier.Search

/-! Resources: fetching, creating, updating, deleting and searching records through a client. -/
namespace Outlier

/-- How a kind of resource is addressed and called. A general one has no calls of its own. -/
structure Resource where
  model : Model
  collection : String
  pattern : Cid.Pattern
  name : String
  plural : String
  isGeneral : Bool

namespace Resource

/-- A plural that is absent or empty is formed from the name. -/
def make (model : Model) (collection : String) (pattern : Cid.Pattern) (name : String)
    (plural : Option String) : Resource :=
  let given := plural.getD ""
  ⟨model, collection, pattern, name, if given.isEmpty then name ++ "s" else given, true⟩

def outlierReport : Resource :=
  { make .outlierReport "/outlier_report" (Cid.collectionOf "outlier_report") "outlier report" none
    with isGeneral := false }

/-- The calls that only the resource of outlier reports has. -/
def ownCalls : List String :=
  ["fetch_outlier_report", "fetch_outlier_reports", "create_outlier_report",
    "update_outlier_report", "delete_outlier_report", "delete_outlier_report_by_cid",
    "search_outlier_reports"]

/-- A general resource lacks the calls of a resource of its own kind. -/
def checkCall (r : Resource) (name : String) : Except Failure Unit :=
  if r.isGeneral && ownCalls.contains name then
    .error (.misuse (.lacks "BaseResourceClient" name))
  else .ok ()

def journal : String := "circonus_client.boundary.resources.base_resource"

variable (r : Resource)

def invalidCid (shown : String) (cid : Option String) : Failure :=
  .fault (.make (.invalidCid (.ofOption cid))
    (.text ("invalid " ++ r.name ++ " CID (" ++ shown ++ ")")) []) none

def accept (cid : String) : Except Failure String :=
  if Cid.accepts r.pattern cid then .ok cid else .error (r.invalidCid cid (some cid))

/-- An identifier that does not begin with the collection is taken to be relative to it. -/
def complete (cid : String) : String :=
  if r.collection.toList.isPrefixOf cid.toList then cid else r.collection ++ "/" ++ cid

/-- The full identifier for a full or a relative one. -/
def normalize (cid : Value) : Except Failure String :=
  if cid.isGiven then match cid with
    | .text s => r.accept (r.complete s)
    | .bytes _ => .error (.misuse .bytesForStart)
    | v => .error (.misuse (.lacks v.typeName "startswith"))
  else .error (r.invalidCid "none" none)

/-- A full identifier as it is. -/
def checkFull (cid : Value) : Except Failure String :=
  if cid.isGiven then match cid with
    | .text s => r.accept s
    | .bytes _ => .error (.misuse .bytesForText)
    | v => .error (.misuse (.notText v.typeName))
  else r.accept ""

def missingRecord : Failure :=
  .fault (.make (.invalidConfig .null) (.text ("invalid " ++ r.name ++ " config (nil)")) []) none

def require : Option Record → Except Failure Record
  | some record => .ok record
  | none => .error r.missingRecord

/-- The fault of a body that does not hold what it should. -/
def parseFault (subject : String) (rejection : Rejection) : Failure :=
  .fault (.make (.parse (.text r.name) (.text "parse"))
    (.text ("parsing " ++ subject ++ ": " ++ rejection.heading)) []) (some (.rejected rejection))

def bodyOf (record : Record) : Except Failure (List UInt8) := record.body.mapError .misuse

def parseOne (body : List UInt8) : Except Failure Record :=
  (Record.ofBody r.model body).mapError (r.parseFault r.name)

def parseMany (body : List UInt8) : Except Failure (List Record) :=
  (Record.allOfBody r.model body).mapError (r.parseFault r.plural)

variable {σ α : Type}

def place (operation : String) : String := journal ++ ":" ++ operation ++ " - "

def trace (c : Client) (operation what : String) (body : List UInt8) : Activity σ Unit :=
  if c.debug then
    .note journal .debug (place operation ++ what ++ " JSON: " ++ Excerpt.ofBody body)
  else pure ()

/-- The fault of an operation whose request failed, noted with the details of the failure. -/
def requestFault (context operation : String) (f : Fault) (cause : Option Failure) :
    Activity σ α := do
  let text := context ++ ": " ++ f.message.plain
  if (f.details.lookup "resource").isSome then .fail (.misuse (.takenTwice "resource"))
  .noteWith journal .error (place operation ++ text) (("resource", .text r.name) :: f.details)
  .fail (.fault (.make (.request (.text r.name) (.text operation)) (.text text) f.details)
    (some (.fault f cause)))

/-- Faults of the client in a request become faults of the operation; all else stays as it is. -/
def guarded (context operation : String) (x : Activity σ α) : Activity σ α := do
  match ← x.attempt with
  | .ok a => pure a
  | .error (.fault f cause) =>
    if f.kind.lineage.contains .api then r.requestFault context operation f cause
    else .fail (.fault f cause)
  | .error f => .fail f

variable (c : Client)

def fetch (cid : Value) : Activity σ Record := do
  let path ← .ofExcept (r.normalize cid)
  let body ← r.guarded ("fetching " ++ r.name) "fetch" (c.get path)
  trace c "fetch" "received" body
  .ofExcept (r.parseOne body)

def fetchAll : Activity σ (List Record) := do
  let body ← r.guarded ("fetching " ++ r.plural) "fetch_all" (c.get r.collection)
  .ofExcept (r.parseMany body)

def create (record : Option Record) : Activity σ Record := do
  let content ← .ofExcept (bodyOf (← .ofExcept (r.require record)))
  trace c "create" "sending" content
  let body ← r.guarded ("creating " ++ r.name) "create" (c.post r.collection content)
  .ofExcept (r.parseOne body)

/-- The record must carry its full identifier. -/
def update (record : Option Record) : Activity σ Record := do
  let record ← .ofExcept (r.require record)
  let path ← .ofExcept (r.checkFull (record.get .cid))
  let content ← .ofExcept (bodyOf record)
  trace c "update" "sending" content
  let body ← r.guarded ("updating " ++ r.name) "update" (c.put path content)
  .ofExcept (r.parseOne body)

def deleteByCid (cid : Value) : Activity σ Unit := do
  let path ← .ofExcept (r.normalize cid)
  let _ ← r.guarded ("deleting " ++ r.name) "delete" (c.delete path)
  .note journal .info (place "delete_by_cid" ++ "deleted " ++ path)

def delete (record : Option Record) : Activity σ Unit := do
  r.deleteByCid c ((← .ofExcept (r.require record)).get .cid)

/-- Without criteria all records are fetched. -/
def search (query : Option String) (filters : Pairs Value) : Activity σ (List Record) := do
  let criteria ← .ofExcept ((Search.criteria query filters).mapError .misuse)
  if criteria.isEmpty then r.fetchAll c
  else
    let path := r.collection ++ "?" ++ Search.encode criteria
    let body ← r.guarded ("searching " ++ r.plural) "search" (c.get path)
    .ofExcept (r.parseMany body)

end Resource
end Outlier
