/-
What a run needs of an engine, the backend that holds and computes tensors.

Model: an engine is a state `σ` with storage primitives and one `compute` for all kernels. Every primitive may fail with
a text, in which case the state it leaves is still there. Handles `τ` are cheap names for storage inside the engine and
show the kind and shape that were asked for.
-/
import TensorGraph.Engine.Kernel

namespace TensorGraph

/-- what can be read off a handle -/
class Handle (τ : Type) where
  kind : τ → ElementKind
  /-- sizes of the axes, outermost first -/
  shape : τ → List Nat

namespace Handle

variable {τ : Type} [Handle τ]

def rank (t : τ) : Nat := (shape t).length

def volume (t : τ) : Nat := TensorGraph.volume (shape t)

end Handle

/-- an engine with state `σ` and handles `τ`; an engine that has nothing to give back need not define `release` -/
class Engine (σ : Type) (τ : outParam Type) where
  name : σ → String
  allocate : ElementKind → List Nat → EStateM String σ τ
  release : τ → EStateM String σ Unit := fun _ => pure ()
  /-- overwrite the contents of a tensor -/
  fill : τ → Payload → EStateM String σ Unit
  read : τ → EStateM String σ Payload
  /-- copy the contents of the first tensor into the second, whatever their shapes -/
  copy : τ → τ → EStateM String σ Unit
  compute : Kernel τ → EStateM String σ Unit

end TensorGraph
