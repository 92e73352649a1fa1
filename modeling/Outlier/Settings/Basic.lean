/-! Settings that have been read and found good. -/
namespace Outlier

/-- What every group of settings has: whether to log bodies, and the level otherwise. -/
structure Switches where
  debug : Bool
  logLevel : String
  deriving Repr

def Switches.effectiveLevel (s : Switches) : String := if s.debug then "DEBUG" else s.logLevel

/-- The service and how to talk to it. -/
structure Connection extends Switches where
  token : String
  appName : String
  accountId : Option String
  url : String
  timeout : Float
  maxRetries : Nat
  shortestWait : Float
  longestWait : Float
  caFile : Option String
  deriving Repr

namespace Connection

def defaultUrl : String := "https://api.circonus.com/v2"

def defaultAppName : String := "circonus-client"

end Connection

structure Settings extends Switches where
  api : Connection
  deriving Repr

end Outlier
