import Outlier.Exchange.Message
import Outlier.Exchange.Reference

/-! Redirects are not followed, but where they lead is worked out, and that may fail. -/
namespace Outlier.Redirect

def statuses : List Int := [301, 302, 303, 307, 308]

def location? (r : Response) : Option String :=
  if statuses.contains r.status then Header.value? r.headers "location" else none

def troubleOf (d : Url.Defect) : Failure := .trouble .invalidUrl d.message

def hostOf (u : Url) : Except Failure (List Char) := u.hostName.mapError .hostname

/-- An address names its host in ASCII. -/
def checkName (u : Url) : Except Failure Unit :=
  let named := { u.authority with user := [] }
  match Header.unencodable? (String.ofList (Url.authorityChars named)) with
  | some f => .error f
  | none => .ok ()

/-- The address that is written in a header. -/
def readLocation (location : String) : Except Failure Url :=
  (Url.read location).mapError fun d =>
    .trouble .remoteProtocol ("Invalid URL in location header: " ++ d.message ++ ".")

/-- An address with a scheme and no host is at the host of the request. -/
def placed (request location : Url) : Except Failure Url :=
  if location.scheme.isEmpty then .ok location
  else do
    if (← hostOf location).isEmpty then
      (location.withHost (← hostOf request)).mapError troubleOf
    else return location

/-- An address that is not absolute is relative to that of the request, and what they come to
together is read again. This is not the address as it is written, so that nothing is said about a
header if it cannot be read. -/
def joined (request location : Url) : Except Failure Url :=
  if location.isAbsolute then .ok location
  else do
    let text ← (Reference.join request.toChars location.toChars).mapError Reference.Defect.failure
    (Url.readChars text).mapError troubleOf

/-- The fragment of a request goes with it where the location has none of its own. -/
def withOwnFragment (request location : Url) : Except Failure Url :=
  let own := Percent.unescape (request.fragment.getD [])
  if own.isEmpty || !(location.fragment.getD []).isEmpty then .ok location
  else (location.withFragment own).mapError troubleOf

/-- Works out where a response leads. -/
def check (request : Url) (r : Response) : Except Failure Unit :=
  match location? r with
  | none => .ok ()
  | some location => do
    let target ← joined request (← placed request (← readLocation location))
    let target ← withOwnFragment request target
    let _ ← hostOf target
    checkName target

end Outlier.Redirect
