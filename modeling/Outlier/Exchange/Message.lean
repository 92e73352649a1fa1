import Outlier.Compression.Encoding
import Outlier.Exchange.Backoff
import Outlier.Exchange.ContentType
import Outlier.Exchange.Header
import Outlier.Journal.Row
import Outlier.Text.Blank

/-! What passes between a client and its server, and what else an exchange leaves behind. -/
namespace Outlier

inductive Verb where
  | get | post | put | delete
  deriving DecidableEq, Repr

def Verb.name : Verb → String
  | .get => "GET"
  | .post => "POST"
  | .put => "PUT"
  | .delete => "DELETE"

structure Request where
  verb : Verb
  url : Url
  headers : Pairs String
  body : Option (List UInt8)
  deriving DecidableEq, Repr

structure Response where
  status : Int
  headers : Pairs String
  body : List UInt8
  deriving DecidableEq, Repr

namespace Response

def lowered (s : List Char) : String := String.ofList (s.map Char.toLower)

/-- The ways in which the body is packed, the last one first. -/
def encodings (r : Response) : List Encoding :=
  let names := (Header.values r.headers "content-encoding").flatMap (·.toList.splitOn ',')
  (names.filterMap fun s => Encoding.ofName? (lowered (trim isSpace s))).reverse

/-- The response with its body unpacked. -/
def unpacked (r : Response) : Except Failure Response :=
  match r.encodings.foldlM Encoding.unpack r.body with
  | .ok body => .ok { r with body }
  | .error d => .error (.trouble .decoding d.message)

def isSuccess (r : Response) : Bool := 200 ≤ r.status && r.status < 300

/-- The body as text, by the character set that the content type names, or else as UTF-8. -/
def text (r : Response) : Except Unreadable String :=
  if r.body.isEmpty then .ok ""
  else do
    let contentType := Header.value? r.headers "content-type"
    match (← (contentType.map ContentType.charset?).getD (.ok none)) with
    | some set => set.text r.body
    | none => return Utf8.decodeLossy r.body

end Response

/-- A server answers a request or the sending of it fails. An answer is at hand in full before it is
handed over, as a server in memory makes it, or its body is still to come, as over a network. -/
inductive Reply where
  | response (r : Response)
  | streamed (r : Response)
  | raised (f : Failure)

def Reply.answer? : Reply → Option Response
  | .response r => some r
  | .streamed r => some r
  | .raised _ => none

/-- The wait before a retry, by what decides its length. -/
structure Pause where
  shortest : Float
  longest : Float
  jitter : Float
  retry : Nat

def Pause.seconds (p : Pause) : Float :=
  if Backoff.isReached p.shortest p.longest p.retry then p.longest + p.jitter * p.shortest
  else Backoff.wait p.shortest p.longest p.jitter p.retry

inductive Event where
  | sent (r : Request)
  | slept (p : Pause)
  | logged (r : Row)

end Outlier
