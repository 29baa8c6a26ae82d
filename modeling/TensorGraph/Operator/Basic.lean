/-
Operators: what an operation does, and which operands it takes.

Model: an operator lists its operands as slots, in the order in which they are looked up. `Operands` is the matching
list of handles: one per slot, or a list where the slot takes several. What an operator makes of its handles is in
`TensorGraph.Operator.Plan`.
-/
import TensorGraph.Engine.Kernel
import TensorGraph.Value

namespace TensorGraph

/-! ## Operators -/

/-- families of pooling -/
inductive PoolFamily
  /-- sum, or average on request -/
  | box
  | avg
  | max
deriving DecidableEq, Repr, Inhabited

/-- what an operation does -/
inductive Operator
  | unary (kind : ElementKind) (op : UnaryOp)
  | binary (kind : ElementKind) (op : BinaryOp)
  | reduce (kind : ElementKind) (op : ReduceOp)
  | argReduce (op : ArgReduceOp)
  | select
  | conv (transposed : Bool)
  | pool (family : PoolFamily) (transposed : Bool)
  /-- the same elements in another shape -/
  | reshape
  | transpose
  /-- a singular list forms a new axis -/
  | concat (singular : Bool)
  | split (singular : Bool)
  | pad
  | tile
  | slice
  | matmul
  | linear
  | softmax
  /-- an input that the caller supplies -/
  | external
  /-- a stored parameter that the caller supplies -/
  | parameter
  | constant
  /-- write to a stored parameter -/
  | update
  /-- known by name only -/
  | unimplemented
deriving DecidableEq, Repr, Inhabited

/-! ## Operands -/

/-- one operand: where it is found and what it may be -/
inductive Slot
  /-- one tensor or literal -/
  | input (key : String)
  | output (key : String)
  /-- an input with a value for when it is missing -/
  | optional (key : String) (fallback : Value)
  /-- an array of tensors or literals -/
  | inputList (key : String)
  | outputList (key : String)
  /-- all inputs and outputs of the operation, whatever they are called -/
  | everything
deriving Repr

/-- what a slot is filled with -/
@[reducible] def Slot.Filling (τ : Type) : Slot → Type
  | .input _ => τ
  | .output _ => τ
  | .optional _ _ => τ
  | .inputList _ => List τ
  | .outputList _ => List τ
  | .everything => List τ

/-- the handles that fill a list of slots -/
@[reducible] def Operands (τ : Type) : List Slot → Type
  | [] => Unit
  | slot :: rest => slot.Filling τ × Operands τ rest

/-- the bias of a convolution or a linear layer; zero if it is missing -/
def Slot.bias : Slot := .optional "bias" (.scalar .zero)

/-- the operands of an operator, in the order in which they are looked up -/
@[reducible] def Operator.signature : Operator → List Slot
  | .unary _ _ => [.input "x", .output "y"]
  | .binary _ _ => [.input "x", .input "y", .output "z"]
  | .reduce _ _ => [.input "input", .output "output"]
  | .argReduce _ => [.input "input", .output "output"]
  | .select => [.input "condition", .input "true_value", .input "false_value", .output "output"]
  | .conv _ => [.input "input", .input "filter", .bias, .output "output"]
  | .pool _ _ => [.input "input", .output "output"]
  | .reshape => [.input "input", .output "output"]
  | .transpose => [.input "input", .output "output"]
  | .concat _ => [.inputList "values", .output "value"]
  | .split _ => [.input "value", .outputList "values"]
  | .pad => [.input "input", .output "output"]
  | .tile => [.input "input", .output "output"]
  | .slice => [.input "input", .output "output"]
  | .matmul => [.input "A", .input "B", .output "C"]
  | .linear => [.input "input", .input "filter", .bias, .output "output"]
  | .softmax => [.input "x", .output "y"]
  | .external => [.output "output"]
  | .parameter => [.output "output"]
  | .constant => [.output "output"]
  | .update => [.input "variable", .input "value", .output "result"]
  | .unimplemented => [.everything]

end TensorGraph
