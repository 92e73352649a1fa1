import Outlier.Journal.Row
import Outlier.Text.Upper

/-! The logbook: loggers by dotted names, their levels, and the handlers that write what passes. -/
namespace Outlier

/-- A handler of this library writes to a stream; any other, known by a number, is none of its
business. -/
inductive Handler where
  | own (stream : String)
  | foreign (number : Nat := 0)
  deriving DecidableEq, Repr

namespace Handler

def isOwn : Handler → Bool
  | .own _ => true
  | .foreign _ => false

end Handler

/-- A row as written to a stream. -/
structure Line where
  stream : String
  logger : String
  level : String
  message : String
  deriving DecidableEq, Repr

def Line.text (time : String) (l : Line) : String :=
  time ++ " - " ++ l.logger ++ " - " ++ l.level ++ " - " ++ l.message ++ "\n"

/-- The levels that have been set, the handlers of the package and those of the root of all loggers,
the loggers met so far, and which levels they were found to let pass. The root keeps its level. -/
structure Logbook where
  levels : Pairs Level
  handlers : List Handler
  rootHandlers : List Handler
  loggers : List String
  answers : List ((String × Int) × Bool)
  deriving DecidableEq, Repr

namespace Logbook

def package : String := "circonus_client"

/-- The loggers of the HTTP layer, which notes every request by itself. -/
def transports : List String := ["httpx", "httpcore"]

def console : String := "stdout"

def start : Logbook := ⟨[], [], [], package :: transports, []⟩

def rootLevel : Int := Severity.warning.level

def isRoot (name : String) : Bool := name == "" || name == "root"

/-- The names above a name, given and returned back to front: each ends before a dot, and the
character before a dot is not looked at again. -/
def above : List Char → List (List Char)
  | [] => []
  | '.' :: s => match s with
    | [] => []
    | c :: t => (c :: t) :: above t
  | _ :: s => above s

def ancestors (name : String) : List String :=
  (above name.toList.reverse).map fun s => String.ofList s.reverse

variable (b : Logbook)

def level (name : String) : Level := (b.levels.lookup name).getD (.number Severity.unset.level)

/-- A logger and those it hands its rows on to: each time the nearest one above that exists. -/
def line : Nat → String → List String
  | 0, name => [name]
  | n + 1, name => name :: match (ancestors name).find? b.loggers.contains with
    | some parent => line n parent
    | none => []

def lineage (name : String) : List String :=
  if isRoot name then [] else b.line name.length name

/-- The nearest level that is set, up to the root's. -/
def effectiveLevel (name : String) : Int :=
  (((b.lineage name).map fun n => (b.level n).toInt).find? (· != 0)).getD rootLevel

/-- Whether a logger lets a level pass. Once found, the answer is kept. -/
def isEnabled (name : String) (level : Int) : Bool :=
  (b.answers.lookup (name, level)).getD (Row.enabled (b.effectiveLevel name) level)

def ask (name : String) (level : Int) : Logbook :=
  if (b.answers.lookup (name, level)).isSome then b
  else { b with answers := ((name, level), b.isEnabled name level) :: b.answers }

def meet (name : String) : Logbook :=
  if isRoot name || b.loggers.contains name then b else { b with loggers := b.loggers ++ [name] }

def written (name : String) (label message : String) : Handler → Option Line
  | .own stream => some ⟨stream, name, label, message⟩
  | .foreign _ => none

/-- The handlers that a row of a logger gets to: those of the package, if it is handed on so far,
and those of the root. -/
def reached (name : String) : List Handler :=
  (if (b.lineage name).contains package then b.handlers else []) ++ b.rootHandlers

/-- What is written of a row, if it is enabled. -/
def lines (name : String) (level : Level) (message : String) : List Line :=
  if b.isEnabled name level.toInt then
    (b.reached name).filterMap (written name level.label message)
  else []

/-- What is written of a row of a logger that may be new, and the logbook afterwards. -/
def log (name : String) (level : Level) (message : String) : List Line × Logbook :=
  let met := b.meet name
  (met.lines name level message, met.ask name level.toInt)

def addHandler (h : Handler) : Logbook := { b with handlers := b.handlers ++ [h] }

/-- Answers do not outlive the levels that they were found for. -/
def setLevel (name : String) (level : Level) : Logbook :=
  { b with levels := Pairs.put name level b.levels, answers := [] }

/-- A level by its number, or by its name in any case. -/
def levelOf : Value → Except Misuse Level
  | .text s => match Severity.ofName? (upper s) with
    | some severity => .ok (.number severity.level)
    | none => .error (.unknownLevel (upper s))
  | v => match Level.ofValue? v with
    | some level => .ok level
    | none => .error (.notLevel v.quoted)

def dropOwn : Logbook := { b with handlers := b.handlers.filter (!·.isOwn) }

def finish (level : Level) (stream : String) : Logbook :=
  transports.foldl (fun b name => b.setLevel name (.number Severity.warning.level))
    ((b.setLevel package level).addHandler (.own stream))

/-- Puts one handler in place of those put there before, and sets the levels. A level that is
unknown is noticed only after the old handlers are gone. -/
def configure (level : Value) (stream : String) : Except Misuse Unit × Logbook :=
  match levelOf level with
  | .ok level => (.ok (), b.dropOwn.finish level stream)
  | .error m => (.error m, b.dropOwn)

end Logbook
end Outlier
