/-!
# Log filters

Which messages are logged: those of a level and above, with other levels for single modules.
-/

namespace GroundLink

/-- How important a log message is. -/
inductive LogLevel where
  | error
  | warn
  | info
  | debug
  | trace
deriving DecidableEq, Repr, Inhabited

namespace LogLevel

/-- All levels. -/
def all : List LogLevel := [.error, .warn, .info, .debug, .trace]

/-- The name of a level in a directive. -/
def name : LogLevel → String
  | .error => "error"
  | .warn => "warn"
  | .info => "info"
  | .debug => "debug"
  | .trace => "trace"

/-- The level with a name in capital letters. -/
def ofName? (name : String) : Option LogLevel := all.find? (·.name.toUpper = name)

end LogLevel

/-- The levels of what is logged. -/
structure LogFilter where
  level : LogLevel
  modules : List (String × LogLevel)
deriving DecidableEq, Repr, Inhabited

/-- A filter as one directive. -/
def LogFilter.directive (f : LogFilter) : String :=
  ",".intercalate (f.level.name :: f.modules.map fun (m, level) => m ++ "=" ++ level.name)

end GroundLink
