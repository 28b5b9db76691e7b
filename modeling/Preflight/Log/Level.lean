import Preflight.Environ
import Preflight.Text.Blank
import Preflight.Text.Lower

/-!
# Log levels

The levels of the program's log, from the most to the least verbose, each with its
severity: a record is written when its severity reaches the level's. `off` lies above every
record's severity, so nothing is written.

The environment may ask for a level under `CHECKPIPE_LOG_LEVEL` or, failing that, under the
older names `CHECKPIPE_LOG` and `CP_LOG`; the first of them that is set and not empty is the
one asked for. Its text is read without surrounding blanks and in lower case, and an unknown
name, like no name at all, means `warn`.
-/

set_option autoImplicit false

namespace Preflight

/-- A level of the log. -/
inductive LogLevel where
  | trace
  | debug
  | info
  | warn
  | error
  | off
  deriving DecidableEq, Repr, Inhabited

namespace LogLevel

/-- Every level, from the most verbose. -/
def all : List LogLevel := [.trace, .debug, .info, .warn, .error, .off]

/-- The name of a level, as it is written in settings. -/
def name : LogLevel → String
  | .trace => "trace"
  | .debug => "debug"
  | .info => "info"
  | .warn => "warn"
  | .error => "error"
  | .off => "off"

/-- The least severity of a record that the level lets through. -/
def severity : LogLevel → Nat
  | .trace => 5
  | .debug => 10
  | .info => 20
  | .warn => 30
  | .error => 40
  | .off => 60

/-- The level of a name, exactly as written. -/
def ofName? (s : String) : Option LogLevel :=
  all.find? (fun l => l.name == s)

/-- The level the program uses when none is asked for. -/
def standard : LogLevel := .warn

/-- The names of all levels, separated by commas, as messages list them. -/
def namesText : String := ", ".intercalate (all.map name)

theorem ofName?_name (l : LogLevel) : ofName? l.name = some l := by
  cases l <;> rfl

end LogLevel

/-- The variables that ask for a log level, the current name first. -/
def levelVariables : List String := ["CHECKPIPE_LOG_LEVEL", "CHECKPIPE_LOG", "CP_LOG"]

namespace Environ

/-- The log level asked for by the environment, as written: the first of the level
variables that is set and not empty. -/
def logLevel? (e : Environ) : Option String :=
  levelVariables.findSome? e.nonEmpty?

/-- Whether any level variable is present, even an empty one. -/
def logLevelSet (e : Environ) : Bool :=
  levelVariables.any e.has

/-- The log level the environment asks for: the asked name without blanks around it and in
lower case, or the standard level when it is unknown or none is asked for. -/
def resolvedLevel (e : Environ) : LogLevel :=
  match e.logLevel? with
  | some v => (LogLevel.ofName? (Text.lower (Text.strip v))).getD LogLevel.standard
  | none => LogLevel.standard

end Environ

end Preflight
