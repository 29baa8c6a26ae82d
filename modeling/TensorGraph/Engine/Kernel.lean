/-
The vocabulary of engines: primitives by name, and the kernels that compute.

Model: a `Kernel` is one request to compute, with its tensors as handles of any type. Changing the handles with
`Kernel.map` keeps operators and parameters. Every kernel belongs to one `Primitive`, and so does every way of moving
data in or out of an engine.
-/
import TensorGraph.Payload

namespace TensorGraph

/-! ## Operators -/

/-- element by element, one operand -/
inductive UnaryOp
  | copy | neg | rcp | exp | log | sin | cos | tan | abs | sign | not | floor | ceil | round | sqr | sqrt | rsqr | rsqrt
  | log2 | relu | sigmoid | tanh | elu | softplus | gelu | silu
deriving DecidableEq, Repr, Inhabited

/-- element by element, two operands; comparisons give logical tensors -/
inductive BinaryOp
  | add | sub | mul | div | pow | min | max | lt | gt | le | ge | eq | ne | and | or
deriving DecidableEq, Repr, Inhabited

/-- over a set of axes -/
inductive ReduceOp
  | sum | mean | max | min | any | all
deriving DecidableEq, Repr, Inhabited

/-- the place of an extreme along one axis -/
inductive ArgReduceOp
  | argMax | argMin
deriving DecidableEq, Repr, Inhabited

/-- over a window -/
inductive PoolOp
  | sum | avg | max
deriving DecidableEq, Repr, Inhabited

/-- how input and output channels of a convolution are connected -/
inductive ConvStrategy
  /-- every output channel sees every input channel -/
  | direct
  /-- one filter per input channel -/
  | depthwise
  /-- channels in the given number of groups -/
  | grouped (groups : Nat)
deriving DecidableEq, Repr, Inhabited

/-! ## Geometry -/

/-- a convolution over the spatial axes -/
structure ConvGeometry where
  /-- before and after, per axis -/
  padding : List (Nat × Nat)
  stride : List Nat
  dilation : List Nat
deriving DecidableEq, Repr, Inhabited

/-- a pooling window over all axes -/
structure PoolGeometry where
  size : List Nat
  padding : List (Nat × Nat)
  stride : List Nat
  dilation : List Nat
  /-- whether padded places count in an average -/
  includeBorder : Bool
deriving DecidableEq, Repr, Inhabited

/-! ## Primitives -/

/-- what an engine can be asked to do -/
inductive Primitive
  | allocate | release | fill | read | copy
  | unary | binary | select | reduce | argReduce | softmax
  | conv | depthwiseConv | groupedConv | pool | matmul | linear
  | transpose | concat | split | padConstant | padReplicate | tile | slice
deriving DecidableEq, Repr, Inhabited

namespace Primitive

def name : Primitive → String
  | .allocate => "allocate"
  | .release => "release"
  | .fill => "fill"
  | .read => "read"
  | .copy => "copy"
  | .unary => "unary"
  | .binary => "binary"
  | .select => "select"
  | .reduce => "reduce"
  | .argReduce => "arg_reduce"
  | .softmax => "softmax"
  | .conv => "conv"
  | .depthwiseConv => "depthwise_conv"
  | .groupedConv => "grouped_conv"
  | .pool => "pool"
  | .matmul => "matmul"
  | .linear => "linear"
  | .transpose => "transpose"
  | .concat => "concat"
  | .split => "split"
  | .padConstant => "pad_constant"
  | .padReplicate => "pad_replicate"
  | .tile => "tile"
  | .slice => "slice"

/-- every primitive -/
def all : List Primitive := [
  .allocate, .release, .fill, .read, .copy,
  .unary, .binary, .select, .reduce, .argReduce, .softmax,
  .conv, .depthwiseConv, .groupedConv, .pool, .matmul, .linear,
  .transpose, .concat, .split, .padConstant, .padReplicate, .tile, .slice]

/-- the primitive of a name -/
def ofName? (text : String) : Option Primitive := all.find? fun p => p.name = text

@[simp] theorem ofName?_name (p : Primitive) : ofName? p.name = some p := by
  cases p <;> decide +kernel

theorem name_injective {p q : Primitive} (h : p.name = q.name) : p = q := by
  have hp := ofName?_name p
  rw [h, ofName?_name] at hp
  exact (Option.some.inj hp).symm

end Primitive

/-- the primitive of a convolution -/
def ConvStrategy.primitive : ConvStrategy → Primitive
  | .direct => .conv
  | .depthwise => .depthwiseConv
  | .grouped _ => .groupedConv

/-! ## Kernels -/

/-- one request to compute on tensors `τ`; a transposed window operation keeps the roles of the forward one -/
inductive Kernel (τ : Type)
  | unary (op : UnaryOp) (kind : ElementKind) (x y : τ)
  | binary (op : BinaryOp) (kind : ElementKind) (x y z : τ)
  | select (c x y z : τ)
  | reduce (op : ReduceOp) (kind : ElementKind) (x y : τ) (axes : List Nat)
  | argReduce (op : ArgReduceOp) (x y : τ) (axis : Nat)
  | softmax (x y : τ) (axis : Nat)
  | conv (strategy : ConvStrategy) (transposed : Bool) (input filter bias output : τ) (geometry : ConvGeometry)
  | pool (op : PoolOp) (transposed : Bool) (input output : τ) (geometry : PoolGeometry)
  | matmul (a b c : τ) (transposeA transposeB : Bool)
  | linear (input filter bias output : τ)
  | transpose (x y : τ) (order : List Nat)
  | concat (inputs : List τ) (output : τ) (axis : Nat) (singular : Bool)
  | split (input : τ) (outputs : List τ) (axis : Nat) (singular : Bool)
  | padConstant (x y : τ) (padding : List (Nat × Nat)) (value : Literal)
  | padReplicate (x y : τ) (padding : List (Nat × Nat))
  | tile (x y : τ)
  | slice (x y : τ) (starts steps : List Nat)
deriving DecidableEq, Repr

namespace Kernel

variable {τ υ : Type}

def primitive : Kernel τ → Primitive
  | .unary .. => .unary
  | .binary .. => .binary
  | .select .. => .select
  | .reduce .. => .reduce
  | .argReduce .. => .argReduce
  | .softmax .. => .softmax
  | .conv strategy .. => strategy.primitive
  | .pool .. => .pool
  | .matmul .. => .matmul
  | .linear .. => .linear
  | .transpose .. => .transpose
  | .concat .. => .concat
  | .split .. => .split
  | .padConstant .. => .padConstant
  | .padReplicate .. => .padReplicate
  | .tile .. => .tile
  | .slice .. => .slice

/-- the same request on other handles -/
def map (f : τ → υ) : Kernel τ → Kernel υ
  | .unary op kind x y => .unary op kind (f x) (f y)
  | .binary op kind x y z => .binary op kind (f x) (f y) (f z)
  | .select c x y z => .select (f c) (f x) (f y) (f z)
  | .reduce op kind x y axes => .reduce op kind (f x) (f y) axes
  | .argReduce op x y axis => .argReduce op (f x) (f y) axis
  | .softmax x y axis => .softmax (f x) (f y) axis
  | .conv strategy transposed input filter bias output geometry =>
    .conv strategy transposed (f input) (f filter) (f bias) (f output) geometry
  | .pool op transposed input output geometry => .pool op transposed (f input) (f output) geometry
  | .matmul a b c transposeA transposeB => .matmul (f a) (f b) (f c) transposeA transposeB
  | .linear input filter bias output => .linear (f input) (f filter) (f bias) (f output)
  | .transpose x y order => .transpose (f x) (f y) order
  | .concat inputs output axis singular => .concat (inputs.map f) (f output) axis singular
  | .split input outputs axis singular => .split (f input) (outputs.map f) axis singular
  | .padConstant x y padding value => .padConstant (f x) (f y) padding value
  | .padReplicate x y padding => .padReplicate (f x) (f y) padding
  | .tile x y => .tile (f x) (f y)
  | .slice x y starts steps => .slice (f x) (f y) starts steps

/-- the tensors of a request, in the order of its fields -/
def handles : Kernel τ → List τ
  | .unary _ _ x y => [x, y]
  | .binary _ _ x y z => [x, y, z]
  | .select c x y z => [c, x, y, z]
  | .reduce _ _ x y _ => [x, y]
  | .argReduce _ x y _ => [x, y]
  | .softmax x y _ => [x, y]
  | .conv _ _ input filter bias output _ => [input, filter, bias, output]
  | .pool _ _ input output _ => [input, output]
  | .matmul a b c _ _ => [a, b, c]
  | .linear input filter bias output => [input, filter, bias, output]
  | .transpose x y _ => [x, y]
  | .concat inputs output _ _ => inputs ++ [output]
  | .split input outputs _ _ => input :: outputs
  | .padConstant x y _ _ => [x, y]
  | .padReplicate x y _ => [x, y]
  | .tile x y => [x, y]
  | .slice x y _ _ => [x, y]

@[simp] theorem primitive_map (f : τ → υ) (k : Kernel τ) : (k.map f).primitive = k.primitive := by
  cases k <;> rfl

@[simp] theorem handles_map (f : τ → υ) (k : Kernel τ) : (k.map f).handles = k.handles.map f := by
  cases k <;> simp [map, handles]

theorem map_map {ω : Type} (g : υ → ω) (f : τ → υ) (k : Kernel τ) : (k.map f).map g = k.map (g ∘ f) := by
  cases k <;> simp [map]

end Kernel

end TensorGraph
