import ClientGen.Issue

/-!
# The ledger of a generation

What a generation has to tell besides its result: the issues it met, which form the report
of a service, and the lines it logged. Recording an issue also logs it.

A **session** is a computation with a state that is kept when it fails: the ledger, and
later the code model, show what was done before the failure.
-/

namespace ClientGen

/-- The levels of log lines. -/
inductive LogLevel
  | debug | info | warning | error
  deriving DecidableEq, Repr

/-- The word for a level. -/
def LogLevel.word : LogLevel → String
  | .debug => "DEBUG"
  | .info => "INFO"
  | .warning => "WARNING"
  | .error => "ERROR"

/-- A line of the log. -/
structure LogLine where
  /-- How much the line matters. -/
  level : LogLevel
  /-- What the line says. -/
  text : String
  deriving DecidableEq, Repr

/-- The issues met while generating one service, and the lines logged. -/
structure Ledger where
  /-- The name of the service, empty while it is not known. -/
  serviceName : String := ""
  /-- The issues, in the order in which they were met. -/
  issues : List Issue := []
  /-- The log, in order. -/
  log : List LogLine := []

namespace Ledger

/-- Whether no issue was met. -/
def ok (l : Ledger) : Bool :=
  l.issues.isEmpty

/-- Log a line. -/
def write (l : Ledger) (level : LogLevel) (text : String) : Ledger :=
  { l with log := l.log ++ [⟨level, text⟩] }

/-- Record an issue, and log it as a warning. -/
def record (l : Ledger) (i : Issue) : Ledger :=
  let service := if l.serviceName.isEmpty then "?" else l.serviceName
  { l with issues := l.issues ++ [i] }.write .warning
    ("[" ++ service ++ "] " ++ i.kind.label ++ ": " ++ i.text)

/-- The report on a service: a line for the service, then one for each issue. -/
def summary (l : Ledger) : String :=
  if l.ok then l.serviceName ++ ": no errors"
  else
    let head := l.serviceName ++ ": " ++ toString l.issues.length ++ " error(s)"
    "\n".intercalate (head :: l.issues.map fun i => "  " ++ i.kind.label ++ ": " ++ i.text)

end Ledger

/-- A computation that may fail, with a state that a failure keeps. -/
abbrev Session (σ : Type) : Type → Type := EStateM Failure σ

namespace Session

/-- A result or failure as a computation that leaves the state alone. -/
def ofOutcome {σ α : Type} : Outcome α → Session σ α
  | .ok a => pure a
  | .error e => throw e

instance {σ : Type} : MonadLift Outcome (Session σ) :=
  ⟨ofOutcome⟩

end Session

end ClientGen
