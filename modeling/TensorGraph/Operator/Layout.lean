/-
Operators that rearrange elements: transposition, joining and splitting, padding, repetition and slicing.
-/
import TensorGraph.Operator.Attribute
import TensorGraph.Operator.Instruction
import TensorGraph.Shape.Slice
import TensorGraph.Text

namespace TensorGraph.Operation

variable {τ : Type} [Handle τ]

/-- the greatest rank that is rearranged -/
def maxLayoutRank : Nat := 5

/-- the listed axes come first -/
def planTranspose (op : Operation) (input output : τ) : Except RunError (Instruction τ) := do
  let rank := Handle.rank input
  op.checkRank rank maxLayoutRank
  let axes := (← op.sizes "axes").getD []
  match completePermutation? axes rank with
  | some order => .ok (.compute .transpose (.transpose input output order))
  | none => .error (op.malformed "axes" s!"{Text.sizes axes} is not a permutation prefix for rank {rank}")

/-- the axis along which a list is joined or split, first by default -/
def listAxis (op : Operation) (rank : Nat) : Except RunError Nat := do
  let axis ← op.integer "axis" 0
  op.axisIndex "axis" axis.toInt rank

/-- the output bounds the axis, since stacking adds one -/
def planConcat (op : Operation) (singular : Bool) (values : List τ) (value : τ) : Except RunError (Instruction τ) := do
  let axis ← op.listAxis (Handle.rank value)
  .ok (.compute .concat (.concat values value axis singular))

def planSplit (op : Operation) (singular : Bool) (value : τ) (values : List τ) : Except RunError (Instruction τ) := do
  let axis ← op.listAxis (Handle.rank value)
  .ok (.compute .split (.split value values axis singular))

/-- padding for every axis; axes beyond the list get none -/
def paddingPerAxis (op : Operation) (rank : Nat) : Except RunError (List (Nat × Nat)) := do
  let padding := (← op.padding "padding").getD []
  if rank < padding.length then .error (op.malformed "padding" s!"{padding.length} pairs for rank {rank}")
  else .ok (padding ++ List.replicate (rank - padding.length) (0, 0))

/-- the border is a constant, zero by default, or the nearest element -/
def planPad (op : Operation) (input output : τ) : Except RunError (Instruction τ) := do
  let rank := Handle.rank input
  op.checkRank rank maxLayoutRank
  let padding ← op.paddingPerAxis rank
  match ← op.string "border" "constant" with
  | "constant" => do
    let value ← op.literalOfKind "value" ((op.attribute? "value").getD (.scalar .zero))
    .ok (.compute .padConstant (.padConstant input output padding value))
  | "replicate" => .ok (.compute .padReplicate (.padReplicate input output padding))
  | border => .error (op.unsupported s!"border mode '{border}'")

def planTile (op : Operation) (input output : τ) : Except RunError (Instruction τ) := do
  op.checkRank (Handle.rank input) maxLayoutRank
  .ok (.compute .tile (.tile input output))

/-- start and step of every axis; the extent is that of the output -/
def planSlice (op : Operation) (input output : τ) : Except RunError (Instruction τ) := do
  let shape := Handle.shape input
  op.checkRank shape.length maxLayoutRank
  let axes := (← op.integers "axes").getD []
  let begins := (← op.integers "begin").getD []
  let strides := (← op.integers "stride").getD []
  match sliceStarts? shape axes begins with
  | none =>
    .error (op.malformed "begin"
      s!"axes {Text.integers axes} and begin {Text.integers begins} do not fit shape {Text.sizes shape}")
  | some starts =>
    match sliceSteps? shape.length axes strides with
    | none =>
      .error (op.malformed "stride"
        s!"axes {Text.integers axes} and stride {Text.integers strides} must pair up with positive steps")
    | some steps => .ok (.compute .slice (.slice input output starts steps))

end TensorGraph.Operation
