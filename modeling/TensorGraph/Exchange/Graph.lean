/-
Tensors, operations and graphs in the exchange format.

Model: each is a record. What is missing from a record is a fault, except for the payload of a tensor, which is none
then, and the maps of an operation, which are empty then.
-/
import TensorGraph.Exchange.Value
import TensorGraph.Graph.Basic

namespace TensorGraph.Exchange

variable (f : FloatForm)

/-! ## Tensors -/

def writeTensor (t : Tensor) : Json := .object [
  ("name", .string t.name),
  ("kind", Named.write t.kind),
  ("shape", .list .nat t.shape),
  ("data", match t.data with
    | none => .null
    | some p => writePayload f p)]

/-- a payload that may be missing or null -/
def readOptionalPayload : Option Json → Option (Option Payload)
  | none => some none
  | some .null => some none
  | some j => (readPayload f j).map some

def readTensor (j : Json) : Option Tensor := do
  match ← j.fields? ["name", "kind", "shape", "data"] with
  | [some name, some kind, some shape, data] =>
    let name ← name.string?
    let kind ← Named.read kind
    let shape ← shape.list? Json.nat?
    let data ← readOptionalPayload f data
    some { name, kind, shape, data }
  | _ => none

/-! ## Operations -/

def writeOperation (op : Operation) : Json := .object [
  ("name", .string op.name),
  ("dtype", Named.write op.dtype),
  ("inputs", .map (writeValue f) op.inputs),
  ("outputs", .map (writeValue f) op.outputs),
  ("attribs", .map (writeValue f) op.attributes)]

/-- a map of values that may be missing, but is not null -/
def readOptionalValues : Option Json → Option (NameMap Value)
  | none => some .empty
  | some j => j.map? (readValue f)

def readOperation (j : Json) : Option Operation := do
  match ← j.fields? ["name", "dtype", "inputs", "outputs", "attribs"] with
  | [some name, some dtype, inputs, outputs, attributes] =>
    let name ← name.string?
    let dtype ← Named.read dtype
    let inputs ← readOptionalValues f inputs
    let outputs ← readOptionalValues f outputs
    let attributes ← readOptionalValues f attributes
    some { name, dtype, inputs, outputs, attributes }
  | _ => none

/-! ## Graphs -/

def writeGraph (g : Graph) : Json := .object [
  ("name", .string g.name),
  ("operations", .list (writeOperation f) g.operations),
  ("tensors", .map (writeTensor f) g.tensors)]

/-- tensors are taken under the names of the members, whatever their own names are -/
def readGraph (j : Json) : Option Graph := do
  match ← j.fields? ["name", "operations", "tensors"] with
  | [some name, some operations, some tensors] =>
    let name ← name.string?
    let operations ← operations.list? (readOperation f)
    let tensors ← tensors.map? (readTensor f)
    some { name, operations, tensors }
  | _ => none

end TensorGraph.Exchange
