/-
Configuration of what a run reports while it goes on.

Model: one level for the targets of this library and a quieter one for everything else, written as one line of filter
directives.
-/

namespace TensorGraph

/-- how much is reported, from everything to errors only -/
inductive LogLevel
  | trace
  | debug
  | info
  | warn
  | error
deriving DecidableEq, Repr, Inhabited

def LogLevel.name : LogLevel → String
  | .trace => "trace"
  | .debug => "debug"
  | .info => "info"
  | .warn => "warn"
  | .error => "error"

/-- what is reported, and how -/
structure LogConfig where
  level : LogLevel
  /-- level of everything else -/
  dependencyLevel : LogLevel
  /-- say where in the program an event comes from -/
  sourceLocation : Bool
  /-- write each event as a JSON document -/
  jsonFormat : Bool
deriving DecidableEq, Repr

namespace LogConfig

/-- run summaries as text -/
def standard : LogConfig := ⟨.info, .warn, false, false⟩

instance : Inhabited LogConfig := ⟨standard⟩

/-- every request to the engine, with where it comes from -/
def dispatchTracing : LogConfig := { standard with level := .trace, sourceLocation := true }

/-- run summaries as JSON -/
def production : LogConfig := { standard with jsonFormat := true }

/-- the targets that follow `level` -/
def targets : List String := ["rnnef_core", "rnnef_runtime"]

/-- the filter, as one line: the level of everything else, then one entry per target -/
def directives (c : LogConfig) : String :=
  String.intercalate "," (c.dependencyLevel.name :: targets.map fun target => target ++ "=" ++ c.level.name)

end LogConfig

end TensorGraph
