import Outlier.Call
import Outlier.Journal.Logbook
import Outlier.Settings.Load

/-! Sessions: settings and facades, each built once and kept until its cache is cleared. -/
namespace Outlier

/-- A facade over the settings with a number, with a client of its own. -/
structure Facade where
  settings : Nat
  client : Client

/-- All settings and facades built so far, by number, and which of them are cached. -/
structure Session where
  environment : Environment
  logbook : Logbook
  printed : List Line
  settings : List Settings
  facades : List Facade
  cachedSettings : Option Nat
  cachedFacade : Option Nat

/-- A step of a session, which changes it even where it fails. -/
abbrev Visit := ExceptT Failure (StateM Session)

namespace Facade

def journal : String := "circonus_client.dependencies"

def greeting (c : Client) : String :=
  journal ++ ":__init__ - API client ready for " ++ c.connection.url

/-- The note of a facade that is ready. -/
def greet {σ : Type} (c : Client) : Activity σ Unit := .note journal .debug (greeting c)

end Facade

namespace Session

def start (file : Option String) : Session where
  environment := ⟨[], file⟩
  logbook := .start
  printed := []
  settings := []
  facades := []
  cachedSettings := none
  cachedFacade := none

def setVariable (name : String) (value : Option String) (s : Session) : Session :=
  let exported := match value with
    | some v => Pairs.put name v s.environment.exported
    | none => s.environment.exported.filter (·.1 != name)
  { s with environment := { s.environment with exported } }

def clearSettings (s : Session) : Session := { s with cachedSettings := none }

def clearFacade (s : Session) : Session := { s with cachedFacade := none }

def print (name : String) (level : Level) (message : String) : Visit Unit :=
  modify fun s => { s with printed := s.printed ++ s.logbook.lines name level message }

/-- New settings, under the next number. -/
def load (given : Pairs Value) : Visit Nat := do
  let s ← get
  let x ← ExceptT.mk (pure (Settings.load given s.environment.sources))
  set { s with settings := s.settings ++ [x] }
  return s.settings.length

/-- The cached settings, which are loaded if there are none. -/
def getSettings : Visit Nat := do
  match (← get).cachedSettings with
  | some k => return k
  | none =>
    let k ← load []
    modify fun s => { s with cachedSettings := some k }
    return k

/-- A new facade, under the next number. -/
def build (settings : Nat) : Visit Nat := do
  let s ← get
  match s.settings[settings]? with
  | none => return s.facades.length
  | some x =>
    let client ← ExceptT.mk (pure (Client.create x.api x.debug))
    set { s with facades := s.facades ++ [(⟨settings, client⟩ : Facade)] }
    print Facade.journal (.number Severity.debug.level) (Facade.greeting client)
    return s.facades.length

def configure (level : String) : Visit Unit := do
  let s ← get
  let (result, logbook) := s.logbook.configure (.text level) Logbook.console
  set { s with logbook }
  ExceptT.mk (pure (result.mapError .misuse))

/-- The cached facade. A new one is built over the cached settings once logging is configured. -/
def getFacade : Visit Nat := do
  match (← get).cachedFacade with
  | some k => return k
  | none =>
    let n ← getSettings
    match (← get).settings[n]? with
    | some x => configure x.effectiveLevel
    | none => pure ()
    let k ← build n
    modify fun s => { s with cachedFacade := some k }
    return k

/-- A facade of its own, over settings with what is given, or else over the cached settings. -/
def makeFacade : Option (Pairs Value) → Visit Nat
  | some given => do build (← load given)
  | none => do build (← getSettings)

variable {σ : Type}

/-- The rows of an outcome, as the logbook writes them. -/
def printRows (b : Logbook) (es : List Event) : List Line :=
  es.flatMap fun
    | .logged r =>
      b.lines r.logger (.number (((Severity.ofName? r.level).map (·.level)).getD 0)) r.message
    | _ => []

/-- A call through a facade. Rows below the level of the package do not reach its logbook. -/
def use (w : World σ) (x : σ) (k : Nat) (call : Call) (s : Session) :
    Option (Outcome σ Answer × Session) :=
  (s.facades[k]?).map fun f =>
    let threshold := s.logbook.effectiveLevel Logbook.package
    let o := call.perform Resource.outlierReport f.client { w with threshold } x
    let facades := s.facades.set k { f with client := call.after f.client }
    (o, { s with facades, printed := s.printed ++ printRows s.logbook o.events })

end Session
end Outlier
