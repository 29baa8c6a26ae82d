/-
What a sound graph is, and the check for it.

Model: a tensor is sound when its rank is at most `maxRank` and a payload has its kind and fills its shape; a reference
is sound when some tensor is kept under it. `Graph.validate` looks at all tensors first and then at the operations in
order, and reports the first fault. The order in which operations produce and use tensors is not looked at.
-/
import TensorGraph.Graph.Basic
import TensorGraph.Text

namespace TensorGraph

/-- the greatest rank a graph may declare -/
def maxRank : Nat := 8

/-- the fault of a tensor declaration, if it has one -/
def Tensor.check (t : Tensor) : Except GraphError Unit :=
  if maxRank < t.rank then .error (.rankTooLarge t.name t.rank maxRank)
  else match t.data with
    | none => .ok ()
    | some p =>
      if p.kind ≠ t.kind then
        .error (.invalidPayload t.name s!"payload is {p.kind.label}, tensor is {t.kind.label}")
      else if p.length ≠ t.volume then
        .error (.invalidPayload t.name
          s!"payload has {p.length} elements, shape {Text.sizes t.shape} needs {t.volume}")
      else .ok ()

namespace Graph

/-- the first fault among tensors -/
def checkTensors : List Tensor → Except GraphError Unit
  | [] => .ok ()
  | t :: rest =>
    match t.check with
    | .ok () => checkTensors rest
    | .error e => .error e

/-- the first reference without a tensor among operations, the first of which has number `index` -/
def checkOperations (tensors : NameMap Tensor) (index : Nat) : List Operation → Except GraphError Unit
  | [] => .ok ()
  | op :: rest =>
    match op.identifiers.find? (fun name => !tensors.contains name) with
    | some name => .error (.undeclaredTensor index op.name name)
    | none => checkOperations tensors (index + 1) rest

/-- check the whole graph; tensors come before operations -/
def validate (g : Graph) : Except GraphError Unit :=
  match checkTensors g.tensors.values with
  | .ok () => checkOperations g.tensors 0 g.operations
  | .error e => .error e

end Graph

end TensorGraph
