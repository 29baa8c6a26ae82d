/-
Running one operation.

Model: `perform` looks up the operands, decides the request and issues it; whatever happens, the scratch tensors of the
operation are released before it returns. An operation of the open kind is refused before anything is looked up.
-/
import TensorGraph.Operator.Plan
import TensorGraph.Operator.Registry
import TensorGraph.Run.Operand

namespace TensorGraph.Session

variable {σ τ α : Type} [Engine σ τ] [Handle τ]

/-- a decision that needs no session -/
def decided : Except RunError α → SessionM σ τ α
  | .ok a => pure a
  | .error e => throw e

/-- make the request of an instruction -/
def issue : Instruction τ → SessionM σ τ Unit
  | .idle => pure ()
  | .fill target payload => invoke .fill (Engine.fill target payload)
  | .copy source target => invoke .copy (Engine.copy source target)
  | .compute name kernel => invoke name (Engine.compute kernel)

/-- look up, decide, issue -/
def dispatch (o : Operator) (op : Operation) : SessionM σ τ Unit := do
  decided (o.precheck op)
  let operands ← supply.fillSlots op o.signature
  let instruction ← decided (o.plan op operands)
  issue instruction

/-- run an operation as an operator -/
def perform (o : Operator) (op : Operation) : SessionM σ τ Unit :=
  if op.dtype.isConcrete then both (dispatch o op) releaseScratch
  else throw (.unsupportedKind op.name op.dtype)

/-- run an operation as the operator known under its name -/
def performNamed (op : Operation) : SessionM σ τ Unit :=
  match Operator.named? op.name with
  | some r => perform r.operator op
  | none => throw (.unknownOperation op.name)

end TensorGraph.Session
