/-
From an operation and its handles to the one request that it makes.

Model: `Operator.precheck` is what is checked before any operand is looked up, `Operator.plan` all the rest. Both only
look at the operation and at kinds and shapes of handles, never at an engine, so an operation is decided before it has
an effect.
-/
import TensorGraph.Operator.Basic
import TensorGraph.Operator.Layout
import TensorGraph.Operator.Window

namespace TensorGraph

namespace Operation

variable {τ : Type} [Handle τ]

/-! ## Reductions -/

/-- a sum is a mean on request -/
def reduceOp (op : Operation) (reduce : ReduceOp) : Except RunError ReduceOp :=
  match reduce with
  | .sum => do
    let normalize ← op.logical "normalize" false
    .ok (if normalize then .mean else .sum)
  | reduce => .ok reduce

def planReduce (op : Operation) (kind : ElementKind) (reduce : ReduceOp) (input output : τ) :
    Except RunError (Instruction τ) := do
  let axes ← op.axisList "axes" (Handle.rank input)
  let reduce ← op.reduceOp reduce
  .ok (.compute .reduce (.reduce reduce kind input output axes))

def planArgReduce (op : Operation) (reduce : ArgReduceOp) (input output : τ) : Except RunError (Instruction τ) := do
  let axis ← op.singleAxis "axes" [] (Handle.rank input)
  .ok (.compute .argReduce (.argReduce reduce input output axis))

/-- along the channels by default -/
def planSoftmax (op : Operation) (x y : τ) : Except RunError (Instruction τ) := do
  let axis ← op.singleAxis "axes" [1] (Handle.rank x)
  .ok (.compute .softmax (.softmax x y axis))

def planMatmul (op : Operation) (a b c : τ) : Except RunError (Instruction τ) := do
  let transposeA ← op.logical "transposeA" false
  let transposeB ← op.logical "transposeB" false
  .ok (.compute .matmul (.matmul a b c transposeA transposeB))

/-! ## Constants -/

/-- as many literals as the tensor has elements, or a single one for all of them -/
def planConstant (op : Operation) (output : τ) : Except RunError (Instruction τ) := do
  match op.attribute? "value" with
  | none => .error (op.malformed "value" "missing literal")
  | some v =>
    let payload ← op.payloadOfKind (Handle.kind output) v
    let size := Handle.volume output
    if payload.length = size then .ok (.fill output payload)
    else
      match payload.broadcast size with
      | some payload => .ok (.fill output payload)
      | none => .error (op.malformed "value" s!"{payload.length} elements cannot fill a tensor of {size}")

end Operation

namespace Operator

variable {τ : Type} [Handle τ]

/-- what is checked before any operand is looked up: window operators know few ways to treat a border -/
def precheck : Operator → Operation → Except RunError Unit
  | .conv _, op => op.checkBorder ["constant"]
  | .pool _ _, op => op.checkBorder ["constant", "ignore"]
  | _, _ => .ok ()

/-- the request of an operation, given the handles of its operands -/
def plan : (o : Operator) → Operation → Operands τ o.signature → Except RunError (Instruction τ)
  | .unary kind f, _, (x, y, ()) => .ok (.compute .unary (.unary f kind x y))
  | .binary kind f, _, (x, y, z, ()) => .ok (.compute .binary (.binary f kind x y z))
  | .reduce kind f, op, (input, output, ()) => op.planReduce kind f input output
  | .argReduce f, op, (input, output, ()) => op.planArgReduce f input output
  | .select, _, (condition, whenTrue, whenFalse, output, ()) =>
    .ok (.compute .select (.select condition whenTrue whenFalse output))
  | .conv transposed, op, (input, filter, bias, output, ()) => op.planConv transposed input filter bias output
  | .pool family transposed, op, (input, output, ()) => op.planPool family transposed input output
  | .reshape, _, (input, output, ()) => .ok (.copy input output)
  | .transpose, op, (input, output, ()) => op.planTranspose input output
  | .concat singular, op, (values, value, ()) => op.planConcat singular values value
  | .split singular, op, (value, values, ()) => op.planSplit singular value values
  | .pad, op, (input, output, ()) => op.planPad input output
  | .tile, op, (input, output, ()) => op.planTile input output
  | .slice, op, (input, output, ()) => op.planSlice input output
  | .matmul, op, (a, b, c, ()) => op.planMatmul a b c
  | .linear, _, (input, filter, bias, output, ()) => .ok (.compute .linear (.linear input filter bias output))
  | .softmax, op, (x, y, ()) => op.planSoftmax x y
  | .external, _, _ => .ok .idle
  | .parameter, _, _ => .ok .idle
  | .constant, op, (output, ()) => op.planConstant output
  | .update, _, (_, value, result, ()) => .ok (.copy value result)
  | .unimplemented, op, _ => .error (op.unsupported "operation not implemented")

end Operator

end TensorGraph
