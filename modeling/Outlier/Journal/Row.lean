import Outlier.Failure
import Outlier.Journal.Excerpt

/-! Rows of the journal and the context that comes with them. -/
namespace Outlier

inductive Severity where
  | critical | fatal | error | warning | warn | info | debug | unset
  deriving DecidableEq, Repr

namespace Severity

def level : Severity → Int
  | .critical | .fatal => 50
  | .error => 40
  | .warning | .warn => 30
  | .info => 20
  | .debug => 10
  | .unset => 0

def name : Severity → String
  | .critical => "CRITICAL"
  | .fatal => "FATAL"
  | .error => "ERROR"
  | .warning => "WARNING"
  | .warn => "WARN"
  | .info => "INFO"
  | .debug => "DEBUG"
  | .unset => "NOTSET"

/-- Of two names for a level the first one is shown. -/
def listed : List Severity := [.critical, .fatal, .error, .warning, .warn, .info, .debug, .unset]

def ofName? (name : String) : Option Severity := listed.find? (·.name == name)

/-- Where no level is set, rows from warnings up are emitted. -/
def effective (level : Int) : Int := if level = unset.level then warning.level else level

end Severity

/-- A level as given. Truth values count as 1 and 0, but are shown as what they are. -/
inductive Level where
  | number (n : Int)
  | truth (b : Bool)
  deriving DecidableEq, Repr

namespace Level

def toInt : Level → Int
  | .number n => n
  | .truth b => b.toNat

def ofValue? : Value → Option Level
  | .int n => some (.number n)
  | .bool b => some (.truth b)
  | _ => none

def toValue : Level → Value
  | .number n => .int n
  | .truth b => .bool b

/-- The name of the severity with the level, if there is one. -/
def label (l : Level) : String :=
  match Severity.listed.find? (·.level == l.toInt) with
  | some s => s.name
  | none => "Level " ++ l.toValue.plain

end Level

structure Row where
  logger : String
  level : String
  message : String
  extras : Pairs String
  deriving DecidableEq, Repr

namespace Row

def plain (logger : String) (s : Severity) (message : String) : Row := ⟨logger, s.name, message, []⟩

/-- The names a row has for itself. -/
def reserved : List String :=
  ["name", "msg", "args", "levelname", "levelno", "pathname", "filename", "module", "exc_info",
    "exc_text", "stack_info", "lineno", "funcName", "created", "msecs", "relativeCreated",
    "thread", "threadName", "processName", "process", "message", "asctime"]

/-- The names that a call with context has for its own arguments. -/
def arguments : List String := ["logger", "level", "message"]

/-- A row is emitted if its level is positive and reaches the logger's. -/
def enabled (threshold level : Int) : Bool := 0 < level && threshold ≤ level

def sorted (extras : Pairs String) : Pairs String := extras.mergeSort fun p q => p.1 ≤ q.1

/-- A row with context, if it is emitted. Names of arguments never pass, names of the row itself
only in a row that is not emitted. -/
def withContext (threshold : Int) (logger : String) (level : Value) (message : String)
    (context : Pairs Value) : Except Misuse (Option Row) :=
  match context.find? (arguments.contains ·.1) with
  | some (name, _) => .error (.taken name)
  | none => match Level.ofValue? level with
    | none => .error .levelNotInteger
    | some level =>
      if enabled threshold level.toInt then match context.find? (reserved.contains ·.1) with
        | some (name, _) => .error (.reserved name)
        | none => .ok (some ⟨logger, level.label, message,
            sorted (context.map fun p => (p.1, Excerpt.ofValue Excerpt.standard p.2))⟩)
      else .ok none

end Row
end Outlier
