/-
Convolution and pooling.

Model: stride and dilation default to ones, and padding to the one that `samePaddings` gives. A transposed operation is
the forward one with its input and output in each other's roles: `source` is the tensor in the engine's input role and
`target` the one in its output role, and padding is computed on these roles.
-/
import TensorGraph.Operator.Attribute
import TensorGraph.Operator.Basic
import TensorGraph.Operator.Instruction
import TensorGraph.Shape.Padding
import TensorGraph.Text

namespace TensorGraph.Operation

/-- batch, channels and up to three spatial axes -/
def maxConvRank : Nat := 5

/-- pooling windows span all axes -/
def maxPoolRank : Nat := 5

/-! ## Border -/

/-- what is done beyond the border has to be one of the ways an operator knows -/
def checkBorder (op : Operation) (known : List String) : Except RunError Unit := do
  let border ← op.string "border" "constant"
  if known.contains border then .ok () else .error (op.unsupported s!"border mode '{border}'")

/-! ## Geometry -/

/-- refuse a list with another number of entries than axes, or with a zero -/
def checkSteps (op : Operation) (key : String) (axes : Nat) (entries : List Nat) : Except RunError Unit :=
  if entries.length ≠ axes then .error (op.malformed key s!"expected {axes} entries, found {entries.length}")
  else if entries.contains 0 then .error (op.malformed key "entries must be positive")
  else .ok ()

/-- the given padding, or the one that makes the window fit -/
def paddingOrSame (op : Operation) (source target window stride dilation : List Nat) :
    Except RunError (List (Nat × Nat)) := do
  let axes := source.length
  match ← op.padding "padding" with
  | some padding =>
    if padding.length ≠ axes then .error (op.malformed "padding" s!"expected {axes} pairs, found {padding.length}")
    else .ok padding
  | none =>
    match samePaddings source target window stride dilation with
    | some padding => .ok padding
    | none =>
      .error (op.malformed "stride"
        s!"stride {Text.sizes stride} with dilation {Text.sizes dilation} overflows the window extent")

/-- padding, stride and dilation of a window over the axes of `source` -/
def geometry (op : Operation) (source target window : List Nat) : Except RunError ConvGeometry := do
  let axes := source.length
  let stride := (← op.sizes "stride").getD (List.replicate axes 1)
  let dilation := (← op.sizes "dilation").getD (List.replicate axes 1)
  op.checkSteps "stride" axes stride
  op.checkSteps "dilation" axes dilation
  let padding ← op.paddingOrSame source target window stride dilation
  .ok ⟨padding, stride, dilation⟩

end TensorGraph.Operation

namespace TensorGraph

/-! ## Convolution -/

/-- one group is a plain convolution; none, or one per channel, is depthwise -/
def ConvStrategy.ofGroups (groups channels : Nat) : ConvStrategy :=
  if groups = 1 then .direct
  else if groups = 0 ∨ groups = channels then .depthwise
  else .grouped groups

/-- the name under which a convolution is requested -/
def ConvStrategy.request : ConvStrategy → Primitive
  | .direct => .conv
  | .depthwise => .depthwiseConv
  | .grouped _ => .groupedConv

namespace Operation

variable {τ : Type} [Handle τ]

/-- how the channels of an operation are connected -/
def strategy (op : Operation) (channels : Nat) : Except RunError ConvStrategy := do
  let groups ← op.integer "groups" 1
  if groups.toInt < 0 then .error (op.malformed "groups" "must not be negative")
  else .ok (.ofGroups groups.toInt.toNat channels)

/-- batch, channels and at least one spatial axis, the same number for all three tensors -/
def checkConvRanks (op : Operation) (input filter output : Nat) : Except RunError Unit := do
  op.checkRank input maxConvRank
  op.checkRank filter maxConvRank
  op.checkRank output maxConvRank
  if input < 3 ∨ filter ≠ input ∨ output ≠ input then
    .error (op.malformed "input" "input, filter and output need matching batch, channel and spatial axes")
  else .ok ()

/-- a convolution, or a transposed one -/
def planConv (op : Operation) (transposed : Bool) (input filter bias output : τ) :
    Except RunError (Instruction τ) := do
  op.checkConvRanks (Handle.rank input) (Handle.rank filter) (Handle.rank output)
  let channels := (Handle.shape input).getD 1 0
  let (source, target) := if transposed then (output, input) else (input, output)
  let geometry ← op.geometry ((Handle.shape source).drop 2) ((Handle.shape target).drop 2)
    ((Handle.shape filter).drop 2)
  let strategy ← op.strategy channels
  .ok (.compute strategy.request (.conv strategy transposed source filter bias target geometry))

/-! ## Pooling -/

/-- what a family does to a window -/
def poolOp (op : Operation) (family : PoolFamily) : Except RunError PoolOp :=
  match family with
  | .box => do
    let normalize ← op.logical "normalize" false
    .ok (if normalize then .avg else .sum)
  | .avg => .ok .avg
  | .max => .ok .max

/-- the window has an extent for every axis of both tensors -/
def windowSize (op : Operation) (source target : Nat) : Except RunError (List Nat) := do
  match ← op.sizes "size" with
  | none => .error (op.malformed "size" "missing window size")
  | some size =>
    if size.length ≠ source ∨ target ≠ source then
      .error (op.malformed "size" s!"window has {size.length} axes, tensor has {source}")
    else .ok size

/-- pooling over a window, or its transpose; only an ignored border stays out of averages -/
def planPool (op : Operation) (family : PoolFamily) (transposed : Bool) (input output : τ) :
    Except RunError (Instruction τ) := do
  op.checkRank (Handle.rank input) maxPoolRank
  op.checkRank (Handle.rank output) maxPoolRank
  let (source, target) := if transposed then (output, input) else (input, output)
  let size ← op.windowSize (Handle.rank source) (Handle.rank target)
  let geometry ← op.geometry (Handle.shape source) (Handle.shape target) size
  let pool ← op.poolOp family
  let includeBorder := op.attribute? "border" ≠ some (.string "ignore")
  .ok (.compute .pool (.pool pool transposed source target
    ⟨size, geometry.padding, geometry.stride, geometry.dilation, includeBorder⟩))

end Operation

end TensorGraph
