/-
Graphs: declared tensors and an ordered list of operations.

Model: tensors are kept under names; a graph read from an exchange format may keep a tensor under another name than its
own, a graph put together by `declare` never does. Operations run in the order of the list.
-/
import TensorGraph.NameMap
import TensorGraph.Value

namespace TensorGraph

/-! ## Tensors -/

/-- a declared tensor; constants, variables and results that were read back carry a payload -/
structure Tensor where
  name : String
  kind : ElementKind
  /-- sizes of the axes, outermost first -/
  shape : List Nat
  data : Option Payload
deriving DecidableEq, Repr, Inhabited

namespace Tensor

def rank (t : Tensor) : Nat := t.shape.length

def volume (t : Tensor) : Nat := TensorGraph.volume t.shape

end Tensor

/-! ## Operations -/

/-- one operation: operands and attributes under their parameter names -/
structure Operation where
  name : String
  /-- declared element kind -/
  dtype : ElementKind
  inputs : NameMap Value
  outputs : NameMap Value
  attributes : NameMap Value
deriving DecidableEq, Repr, Inhabited

namespace Operation

/-- an operation without operands -/
def named (name : String) (dtype : ElementKind) : Operation := ⟨name, dtype, .empty, .empty, .empty⟩

def withInput (op : Operation) (key : String) (v : Value) : Operation := { op with inputs := op.inputs.insert key v }

def withOutput (op : Operation) (key : String) (v : Value) : Operation := { op with outputs := op.outputs.insert key v }

def withAttribute (op : Operation) (key : String) (v : Value) : Operation :=
  { op with attributes := op.attributes.insert key v }

def input? (op : Operation) (key : String) : Option Value := op.inputs.find? key

def output? (op : Operation) (key : String) : Option Value := op.outputs.find? key

def attribute? (op : Operation) (key : String) : Option Value := op.attributes.find? key

/-- the operands with their keys: inputs in key order, then outputs in key order -/
def operands (op : Operation) : List (String × Value) := op.inputs.entries ++ op.outputs.entries

/-- every tensor name an operand mentions, in the order of the operands; attributes are not looked at -/
def identifiers (op : Operation) : List String := op.operands.flatMap fun e => e.2.identifiers

end Operation

/-! ## Graphs -/

/-- a graph of named tensors and operations in execution order -/
structure Graph where
  name : String
  operations : List Operation
  tensors : NameMap Tensor
deriving DecidableEq, Repr, Inhabited

namespace Graph

def empty (name : String) : Graph := ⟨name, [], .empty⟩

/-- the tensor kept under a name -/
def tensor? (g : Graph) (name : String) : Option Tensor := g.tensors.find? name

/-- names under which tensors are kept, in order -/
def tensorNames (g : Graph) : List String := g.tensors.keys

/-- declare a tensor under its own name, which must be new -/
def declare (g : Graph) (t : Tensor) : Except GraphError Graph :=
  if g.tensors.contains t.name then .error (.duplicateTensor t.name)
  else .ok { g with tensors := g.tensors.insert t.name t }

/-- put an operation after all others -/
def append (g : Graph) (op : Operation) : Graph := { g with operations := g.operations ++ [op] }

/-- change the tensor kept under a name, if there is one -/
def modifyTensor (g : Graph) (name : String) (f : Tensor → Tensor) : Graph :=
  { g with tensors := g.tensors.modify name f }

/-- how many operations there are of each name -/
def operationCounts (g : Graph) : NameMap Nat :=
  g.operations.foldl (fun counts op => counts.upsert op.name 1 (· + 1)) .empty

/-- figures that describe a graph -/
structure Summary where
  operationCount : Nat
  tensorCount : Nat
  operationCounts : NameMap Nat
  /-- tensors with a payload -/
  literalCount : Nat
deriving DecidableEq, Repr

def summary (g : Graph) : Summary where
  operationCount := g.operations.length
  tensorCount := g.tensors.size
  operationCounts := g.operationCounts
  literalCount := (g.tensors.values.filter fun t => t.data.isSome).length

end Graph

end TensorGraph
