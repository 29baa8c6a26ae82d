/-
The operations that are known by name.

Model: a table in ascending order of name, which `Operator.named?` searches by halving. Some names are known without an
implementation, so that a caller can tell them from unknown ones.

Main result: `registry_sorted`, the order that the search relies on.
-/
import TensorGraph.Operator.Basic

namespace TensorGraph

/-- a name and what it stands for -/
structure Registration where
  name : String
  operator : Operator
deriving DecidableEq, Repr

/-- every known operation, in ascending order of name -/
def registry : Array Registration := #[
  ⟨"abs", .unary .float .abs⟩,
  ⟨"add", .binary .float .add⟩,
  ⟨"all_reduce", .reduce .bool .all⟩,
  ⟨"and", .binary .bool .and⟩,
  ⟨"any_reduce", .reduce .bool .any⟩,
  ⟨"area_downsample", .unimplemented⟩,
  ⟨"argmax_pool", .unimplemented⟩,
  ⟨"argmax_reduce", .argReduce .argMax⟩,
  ⟨"argmin_reduce", .argReduce .argMin⟩,
  ⟨"avg_pool", .pool .avg false⟩,
  ⟨"batch_normalization", .unimplemented⟩,
  ⟨"box", .pool .box false⟩,
  ⟨"ceil", .unary .float .ceil⟩,
  ⟨"concat", .concat false⟩,
  ⟨"constant", .constant⟩,
  ⟨"conv", .conv false⟩,
  ⟨"copy", .unary .float .copy⟩,
  ⟨"cos", .unary .float .cos⟩,
  ⟨"debox", .pool .box true⟩,
  ⟨"deconv", .conv true⟩,
  ⟨"desample", .unimplemented⟩,
  ⟨"div", .binary .float .div⟩,
  ⟨"elu", .unary .float .elu⟩,
  ⟨"eq", .binary .float .eq⟩,
  ⟨"exp", .unary .float .exp⟩,
  ⟨"external", .external⟩,
  ⟨"floor", .unary .float .floor⟩,
  ⟨"ge", .binary .float .ge⟩,
  ⟨"gelu", .unary .float .gelu⟩,
  ⟨"gt", .binary .float .gt⟩,
  ⟨"l1_normalization", .unimplemented⟩,
  ⟨"l2_normalization", .unimplemented⟩,
  ⟨"le", .binary .float .le⟩,
  ⟨"linear", .linear⟩,
  ⟨"local_response_normalization", .unimplemented⟩,
  ⟨"log", .unary .float .log⟩,
  ⟨"log2", .unary .float .log2⟩,
  ⟨"lt", .binary .float .lt⟩,
  ⟨"matmul", .matmul⟩,
  ⟨"max", .binary .float .max⟩,
  ⟨"max_pool", .pool .max false⟩,
  ⟨"max_reduce", .reduce .float .max⟩,
  ⟨"mean_reduce", .reduce .float .mean⟩,
  ⟨"min", .binary .float .min⟩,
  ⟨"min_reduce", .reduce .float .min⟩,
  ⟨"mul", .binary .float .mul⟩,
  ⟨"multilinear_upsample", .unimplemented⟩,
  ⟨"ne", .binary .float .ne⟩,
  ⟨"nearest_downsample", .unimplemented⟩,
  ⟨"nearest_upsample", .unimplemented⟩,
  ⟨"neg", .unary .float .neg⟩,
  ⟨"not", .unary .bool .not⟩,
  ⟨"or", .binary .bool .or⟩,
  ⟨"pad", .pad⟩,
  ⟨"pow", .binary .float .pow⟩,
  ⟨"rcp", .unary .float .rcp⟩,
  ⟨"relu", .unary .float .relu⟩,
  ⟨"reshape", .reshape⟩,
  ⟨"round", .unary .float .round⟩,
  ⟨"rsqr", .unary .float .rsqr⟩,
  ⟨"rsqrt", .unary .float .rsqrt⟩,
  ⟨"sample", .unimplemented⟩,
  ⟨"select", .select⟩,
  ⟨"separable_conv", .unimplemented⟩,
  ⟨"separable_deconv", .unimplemented⟩,
  ⟨"sigmoid", .unary .float .sigmoid⟩,
  ⟨"sign", .unary .float .sign⟩,
  ⟨"silu", .unary .float .silu⟩,
  ⟨"sin", .unary .float .sin⟩,
  ⟨"slice", .slice⟩,
  ⟨"softmax", .softmax⟩,
  ⟨"softplus", .unary .float .softplus⟩,
  ⟨"split", .split false⟩,
  ⟨"sqr", .unary .float .sqr⟩,
  ⟨"sqrt", .unary .float .sqrt⟩,
  ⟨"squeeze", .reshape⟩,
  ⟨"stack", .concat true⟩,
  ⟨"sub", .binary .float .sub⟩,
  ⟨"sum_reduce", .reduce .float .sum⟩,
  ⟨"tan", .unary .float .tan⟩,
  ⟨"tanh", .unary .float .tanh⟩,
  ⟨"tile", .tile⟩,
  ⟨"transpose", .transpose⟩,
  ⟨"unsqueeze", .reshape⟩,
  ⟨"unstack", .split true⟩,
  ⟨"update", .update⟩,
  ⟨"variable", .parameter⟩
]

/-- the names of all known operations, in order -/
def registeredNames : List String := registry.toList.map (·.name)

/-- look for a name between two positions of a table in ascending order -/
def searchTable (table : Array Registration) (name : String) (lo hi : Nat) (bound : hi ≤ table.size) :
    Option Registration :=
  if h : lo < hi then
    let mid := lo + (hi - lo) / 2
    have : mid < table.size := by omega
    if table[mid].name = name then some table[mid]
    else if table[mid].name < name then searchTable table name (mid + 1) hi bound
    else searchTable table name lo mid (by omega)
  else none
termination_by hi - lo

/-- the operation known under a name -/
def Operator.named? (name : String) : Option Registration :=
  searchTable registry name 0 registry.size (Nat.le_refl _)

/-- no two names are equal, and they ascend -/
theorem registry_sorted : registeredNames.Pairwise (· < ·) := by
  decide +kernel

end TensorGraph
