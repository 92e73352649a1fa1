import Outlier.Charset.Unreadable
import Outlier.Fault
import Outlier.Hostname.Label
import Outlier.Issue
import Outlier.Misuse

/-! Everything an activity can fail with, each with its message. -/
namespace Outlier

/-- What the HTTP layer raises. The last case stands for whatever comes from elsewhere. -/
inductive Trouble where
  | connectTimeout | readTimeout | writeTimeout | poolTimeout | timeout
  | connect | read | write | close | network
  | localProtocol | remoteProtocol | protocol | proxy | unsupportedProtocol | transport
  | decoding | tooManyRedirects | request | status | http | invalidUrl | cookieConflict
  | streamConsumed | responseNotRead | requestNotRead | streamClosed | stream
  | other (name : String)
  deriving DecidableEq, Repr

namespace Trouble

def name : Trouble → String
  | .connectTimeout => "ConnectTimeout"
  | .readTimeout => "ReadTimeout"
  | .writeTimeout => "WriteTimeout"
  | .poolTimeout => "PoolTimeout"
  | .timeout => "TimeoutException"
  | .connect => "ConnectError"
  | .read => "ReadError"
  | .write => "WriteError"
  | .close => "CloseError"
  | .network => "NetworkError"
  | .localProtocol => "LocalProtocolError"
  | .remoteProtocol => "RemoteProtocolError"
  | .protocol => "ProtocolError"
  | .proxy => "ProxyError"
  | .unsupportedProtocol => "UnsupportedProtocol"
  | .transport => "TransportError"
  | .decoding => "DecodingError"
  | .tooManyRedirects => "TooManyRedirects"
  | .request => "RequestError"
  | .status => "HTTPStatusError"
  | .http => "HTTPError"
  | .invalidUrl => "InvalidURL"
  | .cookieConflict => "CookieConflict"
  | .streamConsumed => "StreamConsumed"
  | .responseNotRead => "ResponseNotRead"
  | .requestNotRead => "RequestNotRead"
  | .streamClosed => "StreamClosed"
  | .stream => "StreamError"
  | .other name => name

def listed : List Trouble :=
  [.connectTimeout, .readTimeout, .writeTimeout, .poolTimeout, .timeout, .connect, .read, .write,
    .close, .network, .localProtocol, .remoteProtocol, .protocol, .proxy, .unsupportedProtocol,
    .transport, .decoding, .tooManyRedirects, .request, .status, .http, .invalidUrl,
    .cookieConflict, .streamConsumed, .responseNotRead, .requestNotRead, .streamClosed, .stream]

def ofName (name : String) : Trouble := (listed.find? (·.name == name)).getD (.other name)

/-- What keeps a failure of the HTTP layer from being made from a message alone. -/
def refusal? : Trouble → Option Misuse
  | .status => some (.missingNamed (maker .status) "request" "response")
  | .streamConsumed => some (.tooMany (maker .streamConsumed))
  | .responseNotRead => some (.tooMany (maker .responseNotRead))
  | .requestNotRead => some (.tooMany (maker .requestNotRead))
  | .streamClosed => some (.tooMany (maker .streamClosed))
  | _ => none
where
  maker (t : Trouble) : String := t.name ++ ".__init__()"

/-- The exchange itself failed: the connection, a time limit or the protocol. -/
def isTransport : Trouble → Bool
  | .connectTimeout | .readTimeout | .writeTimeout | .poolTimeout | .timeout
  | .connect | .read | .write | .close | .network
  | .localProtocol | .remoteProtocol | .protocol | .proxy | .unsupportedProtocol | .transport =>
    true
  | _ => false

end Trouble

/-- The sources of settings that hold text. -/
inductive Origin where
  | exported
  | file
  deriving DecidableEq, Repr

def Origin.name : Origin → String
  | .exported => "EnvSettingsSource"
  | .file => "DotEnvSettingsSource"

inductive Failure where
  | fault (f : Fault) (cause : Option Failure)
  | trouble (t : Trouble) (message : String)
  | closed
  | noSuchFile
  | notAscii (run : List Char) (position : Nat)
  | unreadableSetting (name : String) (origin : Origin)
  | hostname (d : Hostname.Defect)
  | unreadable (u : Unreadable)
  | rejected (r : Rejection)
  | misuse (m : Misuse)

namespace Failure

/-- How the characters that a header cannot carry are named. -/
def runText : List Char → Nat → String
  | [c], n => "character '" ++ String.ofList (Quoted.codeEscape c) ++ "' in position " ++ toString n
  | cs, n => "characters in position " ++ toString n ++ "-" ++ toString (n + cs.length - 1)

def message : Failure → String
  | .fault f _ => f.message.plain
  | .trouble _ message => message
  | .closed => "Cannot send a request, as the client has been closed."
  | .noSuchFile => "[Errno 2] No such file or directory"
  | .notAscii run position =>
    "'ascii' codec can't encode " ++ runText run position ++ ": ordinal not in range(128)"
  | .unreadableSetting name origin =>
    "error parsing value for field \"" ++ name ++ "\" from source \"" ++ origin.name ++ "\""
  | .hostname d => d.message
  | .unreadable u => u.message
  | .rejected r => r.heading
  | .misuse m => m.message

/-- Throttling, or a fault of the server. -/
def isPassing : Value → Except Misuse Bool
  | .float x => .ok (x == 429 || 500 ≤ x)
  | v => match v.int? with
    | some n => .ok (n == 429 || 500 ≤ n)
    | none => .error (.notOrdered v.typeName)

/-- Worth another attempt: a failed exchange, or a response with a status that may pass. -/
def isRetryable : Failure → Except Misuse Bool
  | .trouble t _ => .ok t.isTransport
  | .fault ⟨.response status .., _, _⟩ _ => isPassing status
  | _ => .ok false

end Failure
end Outlier
