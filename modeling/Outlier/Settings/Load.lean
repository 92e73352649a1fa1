import Outlier.Journal.Row
import Outlier.Settings.Basic
import Outlier.Settings.Checked
import Outlier.Settings.Source
import Outlier.Text.Upper

/-! Loading settings: each part from the first source that has it, then checked. -/
namespace Outlier

namespace Switches

/-- A level by its name in any case. -/
def readLevel (v : Value) : Coercion.Result String := do
  let given ← Coercion.text v
  if (Severity.ofName? (upper given)).isSome then .ok (upper given)
  else .error (.unknownLevel given)

def check (look : String → Option Value) : Checked Switches :=
  Switches.mk <$> .part "debug" false Coercion.boolean (look "debug")
    <*> .part "log_level" Severity.info.name readLevel (look "log_level")

end Switches

namespace Connection

/-- The lead of the variables that set a connection. -/
def lead : String := "circonus_api_"

def nullable (v : Value) : Coercion.Result (Option String) :=
  match v with
  | .null => .ok none
  | v => (Coercion.text v).map some

/-- An address without the slashes at its end. -/
def readUrl (v : Value) : Coercion.Result String :=
  (Coercion.text v).map fun s => String.ofList (trimEnd (· == '/') s.toList)

def readPositive (v : Value) : Coercion.Result Float := do
  let x ← Coercion.number v
  if 0 < x then .ok x else .error .notAbove

def readNonnegative (v : Value) : Coercion.Result Float := do
  let x ← Coercion.number v
  if 0 ≤ x then .ok x else .error .below

def readCount (v : Value) : Coercion.Result Nat := do
  let n ← Coercion.integer v
  if 0 ≤ n then .ok n.toNat else .error .below

def make (switches : Switches) (token appName : String) (accountId : Option String) (url : String)
    (timeout : Float) (maxRetries : Nat) (shortestWait longestWait : Float)
    (caFile : Option String) : Connection :=
  { switches with token, appName, accountId, url, timeout, maxRetries, shortestWait, longestWait,
                  caFile }

def check (look : String → Option Value) : Checked Connection :=
  make <$> Switches.check look
    <*> .part "token" "" Coercion.text (look "token")
    <*> .part "app_name" defaultAppName Coercion.text (look "app_name")
    <*> .part "account_id" none nullable (look "account_id")
    <*> .part "url" defaultUrl readUrl (look "url")
    <*> .part "timeout" 30 readPositive (look "timeout")
    <*> .part "max_retries" 4 readCount (look "max_retries")
    <*> .part "min_retry_delay" 1 readNonnegative (look "min_retry_delay")
    <*> .part "max_retry_delay" 15 readNonnegative (look "max_retry_delay")
    <*> .part "ca_file" none nullable (look "ca_file")

def names : List String :=
  ["debug", "log_level", "token", "app_name", "account_id", "url", "timeout", "max_retries",
    "min_retry_delay", "max_retry_delay", "ca_file"]

end Connection

def verdict {α : Type} (title : String) : Checked α → Except Failure α
  | .good a => .ok a
  | .bad issues => .error (.rejected ⟨title, issues⟩)

namespace Switches

def load (given : Pairs Value) (s : Sources) : Except Failure Switches :=
  verdict "BaseSettings" (check (s.value? ((Lookup.standard "").adjusted given) given))

end Switches

namespace Connection

def checkFrom (given : Pairs Value) (s : Sources) : Checked Connection :=
  check (s.value? ((Lookup.standard lead).adjusted given) given)

def load (given : Pairs Value) (s : Sources) : Except Failure Connection :=
  verdict "APISettings" (checkFrom given s)

end Connection

namespace Settings

/-- The names of a connection's parts in their own case; all other names stay. -/
def partName (name : String) : String :=
  (Connection.names.find? (lower name == ·)).getD name

def partNames : Value → Value
  | .object members => .object (Pairs.ofList (members.map fun p => (partName p.1, p.2)))
  | v => v

/-- A connection written as JSON in a source; null counts as nothing. -/
def readApi (keepsCase : Bool) (origin : Origin) : Option Value → Except Failure (Option Value)
  | some (.text text) => match Json.readText? text with
    | none => .error (.unreadableSetting "api" origin)
    | some .null => .ok none
    | some v => .ok (some (if keepsCase then v else partNames v))
  | v => .ok v

/-- Of two objects the second fills in what the first leaves open; otherwise the first holds. -/
def merge : Option Value → Option Value → Option Value
  | some (.object high), some (.object low) => some (.object (Pairs.putAll low high))
  | some high, _ => some high
  | none, low => low

/-- The connection, from what is given for it and from the sources of its own. -/
def checkApi (s : Sources) : Value → Checked Connection
  | .object members => (Connection.checkFrom members s).within (.key "api")
  | _ => .bad [⟨.notRecord, [.key "api"]⟩]

def load (given : Pairs Value) (s : Sources) : Except Failure Settings := do
  let l := (Lookup.standard "").adjusted given
  let named ← readApi l.keepsCase .exported (s.named? l "api")
  let filed ← readApi l.keepsCase .file (s.filed? l "api")
  let make (switches : Switches) (api : Connection) : Settings := { switches with api }
  let switches := Switches.check (s.value? l given)
  match merge (merge (l.part? given "api") named) filed with
  | some v => verdict "Settings" (make <$> switches <*> checkApi s v)
  | none =>
    let api ← Connection.load [] s
    verdict "Settings" (make <$> switches <*> pure api)

end Settings
end Outlier
