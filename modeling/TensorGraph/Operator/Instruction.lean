/-
What an operator asks of the engine once its operands are there: at most one request.
-/
import TensorGraph.Engine.Basic

namespace TensorGraph

/-- the one thing that an operator makes of its handles -/
inductive Instruction (τ : Type)
  /-- nothing to do -/
  | idle
  | fill (target : τ) (payload : Payload)
  | copy (source target : τ)
  /-- a request to compute, and the name that is given to it if it fails -/
  | compute (name : Primitive) (kernel : Kernel τ)
deriving DecidableEq, Repr

/-- the same instruction on other handles -/
def Instruction.map {τ υ : Type} (f : τ → υ) : Instruction τ → Instruction υ
  | .idle => .idle
  | .fill target payload => .fill (f target) payload
  | .copy source target => .copy (f source) (f target)
  | .compute name kernel => .compute name (kernel.map f)

end TensorGraph
