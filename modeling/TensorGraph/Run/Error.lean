/-
What can go wrong while a graph runs, and how it is said. Every fault stops the run.
-/
import TensorGraph.Engine.Kernel
import TensorGraph.Graph.Error

namespace TensorGraph

/-- a fault of a session, an operation or a run -/
inductive RunError
  /-- a tensor name was bound before in the same session -/
  | duplicateTensor (name : String)
  /-- a tensor is used that has no binding -/
  | unboundTensor (name : String)
  /-- `subject` is a tensor or an operation of a kind that cannot be stored -/
  | unsupportedKind (subject : String) (kind : ElementKind)
  /-- well formed, but outside of what is implemented -/
  | unsupportedOperation (operation reason : String)
  /-- an operand or attribute is missing or is not what it should be -/
  | malformedOperand (operation operand reason : String)
  | unknownOperation (name : String)
  /-- a primitive failed, for a reason given by the engine -/
  | engine (primitive : Primitive) (reason : String)
  /-- operation number `index` of a run failed -/
  | operation (index : Nat) (name : String) (cause : RunError)
  | graph (cause : GraphError)
deriving DecidableEq, Repr, Inhabited

namespace RunError

/-- the text shown to the user -/
def message : RunError → String
  | .duplicateTensor name => s!"tensor '{name}' is already bound in this context"
  | .unboundTensor name => s!"tensor '{name}' has no engine binding"
  | .unsupportedKind subject kind => s!"unsupported element kind '{kind.label}' for {subject}"
  | .unsupportedOperation op reason => s!"operation '{op}' is not supported: {reason}"
  | .malformedOperand op operand reason => s!"operation '{op}' has malformed operand '{operand}': {reason}"
  | .unknownOperation name => s!"unknown operation '{name}'"
  | .engine primitive _ => s!"engine primitive '{primitive.name}' failed"
  | .operation index name cause => s!"operation #{index} '{name}' failed: {cause.message}"
  | .graph cause => cause.message

/-- the fault behind any number of failing operations -/
def root : RunError → RunError
  | .operation _ _ cause => cause.root
  | e => e

end RunError

end TensorGraph
