import Outlier.Exchange.Activity
import Outlier.Exchange.Redirect
import Outlier.Settings.Basic

/-! The client: one request after another until one succeeds, fails for good, or retries run out. -/
namespace Outlier

/-- A client over a connection; once closed it stays so. -/
structure Client where
  connection : Connection
  base : Url
  debug : Bool
  isOpen : Bool

namespace Client

def journal : String := "circonus_client.boundary.http.api_client"

def missingToken : Fault :=
  .make .configuration (.text "API token is required") [("setting", .text "CIRCONUS_API_TOKEN")]

/-- A client, unless something keeps the connection from being used. A bundle of certificates is
never found: there are no files here. -/
def create (connection : Connection) (debug : Bool) : Except Failure Client :=
  if connection.token.isEmpty then .error (.fault missingToken none)
  else if (connection.caFile.getD "") ≠ "" then .error .noSuchFile
  else match Url.readBase connection.url with
    | .error d => .error (Redirect.troubleOf d)
    | .ok base =>
      let texts := [connection.token, connection.appName, connection.accountId.getD ""]
      match texts.findSome? Header.unencodable? with
      | some f => .error f
      | none => .ok ⟨connection, base, debug, true⟩

def close (c : Client) : Client := { c with isOpen := false }

/-- An account that is absent or empty has no header, and neither has a body that is absent. -/
def headers (c : Client) (hasBody : Bool) : Pairs String :=
  let account := c.connection.accountId.getD ""
  [("x-circonus-auth-token", c.connection.token), ("x-circonus-app-name", c.connection.appName)] ++
    (if account.isEmpty then [] else [("x-circonus-account-id", account)]) ++
    ("accept", "application/json") ::
    (if hasBody then [("content-type", "application/json")] else [])

variable {σ : Type} (c : Client) (verb : Verb) (path : String) (body : Option (List UInt8))

def note (severity : Severity) (place : String) (message : String) : Activity σ Unit :=
  .note journal severity (journal ++ ":" ++ place ++ " - " ++ message)

def line : String := verb.name ++ " " ++ path

/-- A request names the host that it is for in ASCII. -/
def checkHost (u : Url) : Except Failure Unit := do
  let _ ← Redirect.hostOf u
  Redirect.checkName u

def request : Except Failure Request := do
  let url ← (c.base.join path).mapError Redirect.troubleOf
  checkHost url
  if c.isOpen then return ⟨verb, url, c.headers body.isSome, body⟩ else .error .closed

/-- An address as it is named without an empty fragment. -/
def shown (u : Url) : String :=
  let s := u.toChars
  String.ofList (if s.getLast? = some '#' then s.dropLast else s)

/-- Where a response leads is worked out for requests to an address of a known kind. -/
def checkLead (request : Request) (r : Response) : Except Failure Unit :=
  if request.url.hasType then Redirect.check request.url r
  else .error (.misuse (.unknownType (shown request.url)))

/-- What the HTTP layer hands on of a reply: a response, or why there is none. An answer at hand in
full is made of headers in ASCII and unpacked at once; one that is still to come has its headers as
they were read, and is unpacked when it is known where it leads. -/
def taken (request : Request) : Reply → Except Failure Response
  | .response r =>
    match Header.defect? r.headers with
    | some f => .error f
    | none => do
      let r ← r.unpacked
      checkLead request r
      return r
  | .streamed r => do
    checkLead request r
    r.unpacked
  | .raised f => .error f

def responseFailure (r : Response) : Failure :=
  match r.text with
  | .ok text => .fault (.response r.status text verb.name path) none
  | .error u => .unreadable u

/-- One attempt: the body of a response of success. -/
def sendOnce : Activity σ (List UInt8) := do
  let request ← .ofExcept (c.request verb path body)
  let reply ← Activity.send request
  let r ← .ofExcept (taken request reply)
  if c.debug then
    note .debug "_send" (line verb path ++ " -> " ++ String.ofList (Numeral.ofInt r.status) ++
      ": " ++ Excerpt.ofBody r.body)
  if r.isSuccess then pure r.body else .fail (responseFailure verb path r)

/-- The name of the failure that led to a retry. -/
def reason : Failure → String
  | .trouble t _ => t.name
  | .fault f _ => f.kind.name
  | _ => ""

/-- One attempt, and what comes next if it fails in a way that may pass. -/
def attemptOr (next : Failure → Activity σ (List UInt8)) : Activity σ (List UInt8) := do
  match ← (c.sendOnce verb path body).attempt with
  | .ok content => pure content
  | .error f => if ← .ofExcept (f.isRetryable.mapError .misuse) then next f else .fail f

/-- Retries from number `retry` on while any are left. How long to wait is worked out before it is
asked whether any are. -/
def attempts (retry : Nat) : Nat → Activity σ (List UInt8)
  | 0 => c.attemptOr verb path body fun f => do
    let _ ← Activity.draw
    .fail f
  | left + 1 => c.attemptOr verb path body fun f => do
    let jitter ← Activity.draw
    note .warning "_request" (line verb path ++ " retry " ++ toString retry ++ "/" ++
      toString c.connection.maxRetries ++ " after " ++ reason f)
    Activity.pause ⟨c.connection.shortestWait, c.connection.longestWait, jitter, retry⟩
    attempts (retry + 1) left

/-- A failed exchange becomes a fault of the client; a response fault stays as it is. -/
def settle : Failure → Activity σ (List UInt8)
  | .trouble t message =>
    if t.isTransport then do
      let text := line verb path ++ " failed: " ++ message
      note .error "_request" text
      .fail (.fault (.make (.transport (.text verb.name) (.text path)) (.text text) [])
        (some (.trouble t message)))
    else .fail (.trouble t message)
  | .fault f cause => do
    match f.subject with
    | .response status .. =>
      note .error "_request" (line verb path ++ " -> " ++ status.plain)
    | _ => pure ()
    .fail (.fault f cause)
  | f => .fail f

/-- The body of the answer to a request, after as many retries as the connection allows. -/
def exchange : Activity σ (List UInt8) := do
  match body with
  | some content =>
    if c.debug then
      note .debug "_request" (line verb path ++ " body: " ++ Excerpt.ofBody content)
  | none => pure ()
  match ← (c.attempts verb path body 1 c.connection.maxRetries).attempt with
  | .ok content => pure content
  | .error f => settle verb path f

def get : Activity σ (List UInt8) := c.exchange .get path none

def post (content : List UInt8) : Activity σ (List UInt8) := c.exchange .post path (some content)

def put (content : List UInt8) : Activity σ (List UInt8) := c.exchange .put path (some content)

def delete : Activity σ (List UInt8) := c.exchange .delete path none

end Client
end Outlier
