/-
Running a graph.

Model: tensors are prepared in the order of their names, then the operations run in the order of the graph, and the
first fault ends the run. Times come from outside: a `Clock` says how long each operation took, so a run is a function.
-/
import TensorGraph.Run.Operation
import TensorGraph.Run.Statistics

namespace TensorGraph

/-- what a run does besides the operations -/
structure RunOptions where
  /-- collect times per operation -/
  profiling : Bool
  /-- bind the tensors of the graph that are not bound yet, and store their payloads -/
  materialize : Bool
deriving DecidableEq, Repr

/-- both are on by default -/
instance : Inhabited RunOptions := ⟨⟨true, true⟩⟩

/-- how long things took -/
structure Clock where
  /-- the operation of a number -/
  operation : Nat → Duration
  /-- the whole run -/
  run : Duration

/-- a clock that stands still -/
def Clock.still : Clock := ⟨fun _ => 0, 0⟩

namespace Session

variable {σ τ : Type} [Engine σ τ]

/-- bind a tensor kept under `key` and store its payload, unless the key is bound -/
def prepare (key : String) (t : Tensor) : SessionM σ τ Unit := fun s =>
  if s.isBound key then .ok () s
  else (do
    bindTensor t
    if t.data.isSome then store t) s

/-- prepare every tensor, in order -/
def materialize : List (String × Tensor) → SessionM σ τ Unit
  | [] => pure ()
  | (key, t) :: rest => do
    prepare key t
    materialize rest

variable [Handle τ]

/-- run one operation of a graph; a fault says which one it was -/
def runOperation (index : Nat) (op : Operation) : SessionM σ τ Unit := fun s =>
  match performNamed op s with
  | .ok () s => .ok () s
  | .error e s => .error (.operation index op.name e) s

/-- run operations, the first of which has number `index`, adding to figures -/
def runOperations (options : RunOptions) (clock : Clock) (index : Nat) (figures : RunStatistics) :
    List Operation → SessionM σ τ RunStatistics
  | [] => pure figures
  | op :: rest => do
    runOperation index op
    let elapsed := clock.operation index
    let perOperation :=
      if options.profiling then figures.perOperation.upsert op.name (.first elapsed) (·.record elapsed)
      else figures.perOperation
    runOperations options clock (index + 1)
      { figures with operationsExecuted := figures.operationsExecuted + 1, perOperation } rest

/-- run a graph -/
def runGraph (options : RunOptions) (clock : Clock) (g : Graph) : SessionM σ τ RunStatistics := do
  let before := (← get).requests
  if options.materialize then materialize g.tensors.entries
  let figures ← runOperations options clock 0 ⟨0, 0, 0, .empty⟩ g.operations
  let after := (← get).requests
  return { figures with requests := after - before, duration := clock.run }

/-- run a graph on a fresh session, which is handed out if all went well; a failed one is cleared -/
def runFresh (engine : σ) (g : Graph) : EStateM.Result RunError (Session σ τ) Unit :=
  match runGraph default Clock.still g (start engine) with
  | .ok _ s => .ok () s
  | .error e s =>
    match clear s with
    | .ok _ s => .error e s
    | .error _ s => .error e s

end Session

end TensorGraph
