/-
Everything that can be done with a session, as data.

Model: a `Step` is one thing that a caller does. A step that fails leaves the session in the state it reached, and the
next step goes on from there, so `after` is the state of a session with a history.
-/
import TensorGraph.Run.Graph

namespace TensorGraph

/-- one thing that a caller does with a session -/
inductive Step
  /-- bind a tensor under its name -/
  | create (t : Tensor)
  /-- store the payload of a tensor -/
  | write (t : Tensor)
  /-- read the payload of a tensor back -/
  | read (t : Tensor)
  /-- run an operation as an operator -/
  | perform (o : Operator) (op : Operation)
  | run (options : RunOptions) (clock : Clock) (g : Graph)
  | clear
deriving Inhabited

/-- what a step that went well has to say -/
inductive Answer
  | done
  /-- a tensor with the payload that was read -/
  | tensor (t : Tensor)
  | figures (s : RunStatistics)
deriving DecidableEq, Repr, Inhabited

namespace Session

variable {σ τ : Type} [Engine σ τ] [Handle τ]

/-- take a step -/
def take : Step → SessionM σ τ Answer
  | .create t => do
    bindTensor t
    return .done
  | .write t => do
    store t
    return .done
  | .read t => do
    let t ← load t
    return .tensor t
  | .perform o op => do
    perform o op
    return .done
  | .run options clock g => do
    let figures ← runGraph options clock g
    return .figures figures
  | .clear => do
    clear
    return .done

/-- the state in which a step leaves a session, whether it failed or not -/
def next (s : Session σ τ) (step : Step) : Session σ τ :=
  match take step s with
  | .ok _ s => s
  | .error _ s => s

/-- the state after a history of steps -/
def after (s : Session σ τ) (history : List Step) : Session σ τ := history.foldl next s

end Session

end TensorGraph
