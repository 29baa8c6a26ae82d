/-
What can be wrong with a graph description, and how it is said.
-/

namespace TensorGraph

/-- a fault found while a graph is read, built or validated -/
inductive GraphError
  /-- two tensors of one name -/
  | duplicateTensor (name : String)
  /-- operation number `index` names a tensor that is not declared -/
  | undeclaredTensor (index : Nat) (operation tensor : String)
  | rankTooLarge (tensor : String) (rank max : Nat)
  /-- a literal payload that does not fit its tensor -/
  | invalidPayload (tensor reason : String)
  | unknownElementKind (text : String)
deriving DecidableEq, Repr, Inhabited

/-- the text shown to the user -/
def GraphError.message : GraphError → String
  | .duplicateTensor name => s!"duplicate tensor declaration '{name}'"
  | .undeclaredTensor index operation tensor =>
    s!"operation #{index} '{operation}' references undeclared tensor '{tensor}'"
  | .rankTooLarge tensor rank max => s!"tensor '{tensor}' has rank {rank}, maximum is {max}"
  | .invalidPayload tensor reason => s!"tensor '{tensor}' literal payload is invalid: {reason}"
  | .unknownElementKind text => s!"unknown element kind '{text}'"

end TensorGraph
