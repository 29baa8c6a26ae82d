/-
Geometry and logged calls in the exchange format.

Model: a call is a flat record with its parameters and the numbers of its buffers. The three convolution primitives
share one name there and are told apart by their strategy.
-/
import TensorGraph.Engine.Recorder
import TensorGraph.Exchange.Value

namespace TensorGraph.Exchange

/-! ## Geometry -/

def writeSizes (l : List Nat) : Json := .list .nat l

def writePadding (l : List (Nat × Nat)) : Json := .list (fun p => .array [.nat p.1, .nat p.2]) l

def readSizes (j : Json) : Option (List Nat) := j.list? Json.nat?

def readPadding (j : Json) : Option (List (Nat × Nat)) := j.list? (Json.pair? Json.nat?)

def writeStrategy : ConvStrategy → Json
  | .direct => .string "direct"
  | .depthwise => .string "depthwise"
  | .grouped groups => .tagged "grouped" (.nat groups)

def readStrategy (j : Json) : Option ConvStrategy :=
  match j with
  | .object [("grouped", body)] => body.nat?.map .grouped
  | j =>
    match j.bareName? with
    | some "direct" => some .direct
    | some "depthwise" => some .depthwise
    | _ => none

def writeConvGeometry (g : ConvGeometry) : Json := .object [
  ("padding", writePadding g.padding),
  ("stride", writeSizes g.stride),
  ("dilation", writeSizes g.dilation)]

def readConvGeometry (j : Json) : Option ConvGeometry := do
  match ← j.fields? ["padding", "stride", "dilation"] with
  | [some padding, some stride, some dilation] =>
    let padding ← readPadding padding
    let stride ← readSizes stride
    let dilation ← readSizes dilation
    some { padding, stride, dilation }
  | _ => none

def writePoolGeometry (g : PoolGeometry) : Json := .object [
  ("size", writeSizes g.size),
  ("padding", writePadding g.padding),
  ("stride", writeSizes g.stride),
  ("dilation", writeSizes g.dilation),
  ("include_border", .bool g.includeBorder)]

def readPoolGeometry (j : Json) : Option PoolGeometry := do
  match ← j.fields? ["size", "padding", "stride", "dilation", "include_border"] with
  | [some size, some padding, some stride, some dilation, some includeBorder] =>
    let size ← readSizes size
    let padding ← readPadding padding
    let stride ← readSizes stride
    let dilation ← readSizes dilation
    let includeBorder ← includeBorder.bool?
    some { size, padding, stride, dilation, includeBorder }
  | _ => none

/-! ## Calls -/

variable (f : FloatForm)

/-- the parameters of a kernel -/
def kernelFields : Kernel Nat → List (String × Json)
  | .unary op kind x y => [("op", Named.write op), ("kind", Named.write kind), ("x", .nat x), ("y", .nat y)]
  | .binary op kind x y z =>
    [("op", Named.write op), ("kind", Named.write kind), ("x", .nat x), ("y", .nat y), ("z", .nat z)]
  | .select c x y z => [("c", .nat c), ("x", .nat x), ("y", .nat y), ("z", .nat z)]
  | .reduce op kind x y axes =>
    [("op", Named.write op), ("kind", Named.write kind), ("x", .nat x), ("y", .nat y), ("axes", writeSizes axes)]
  | .argReduce op x y axis => [("op", Named.write op), ("x", .nat x), ("y", .nat y), ("axis", .nat axis)]
  | .softmax x y axis => [("x", .nat x), ("y", .nat y), ("axis", .nat axis)]
  | .conv strategy transposed input filter bias output geometry =>
    [("strategy", writeStrategy strategy), ("transposed", .bool transposed), ("input", .nat input),
      ("filter", .nat filter), ("bias", .nat bias), ("output", .nat output), ("params", writeConvGeometry geometry)]
  | .pool op transposed input output geometry =>
    [("op", Named.write op), ("transposed", .bool transposed), ("input", .nat input), ("output", .nat output),
      ("params", writePoolGeometry geometry)]
  | .matmul a b c transposeA transposeB =>
    [("a", .nat a), ("b", .nat b), ("c", .nat c), ("transpose_a", .bool transposeA), ("transpose_b", .bool transposeB)]
  | .linear input filter bias output =>
    [("input", .nat input), ("filter", .nat filter), ("bias", .nat bias), ("output", .nat output)]
  | .transpose x y order => [("x", .nat x), ("y", .nat y), ("perm", writeSizes order)]
  | .concat inputs output axis singular =>
    [("inputs", writeSizes inputs), ("output", .nat output), ("axis", .nat axis), ("singular", .bool singular)]
  | .split input outputs axis singular =>
    [("input", .nat input), ("outputs", writeSizes outputs), ("axis", .nat axis), ("singular", .bool singular)]
  | .padConstant x y padding value =>
    [("x", .nat x), ("y", .nat y), ("padding", writePadding padding), ("value", writeLiteral f value)]
  | .padReplicate x y padding => [("x", .nat x), ("y", .nat y), ("padding", writePadding padding)]
  | .tile x y => [("x", .nat x), ("y", .nat y)]
  | .slice x y starts steps =>
    [("x", .nat x), ("y", .nat y), ("offsets", writeSizes starts), ("strides", writeSizes steps)]

/-- the parameters of a call -/
def callFields : Call → List (String × Json)
  | .allocate id kind shape => [("id", .nat id), ("kind", Named.write kind), ("shape", writeSizes shape)]
  | .release id => [("id", .nat id)]
  | .fill id => [("id", .nat id)]
  | .read id => [("id", .nat id)]
  | .copy x y => [("x", .nat x), ("y", .nat y)]
  | .compute kernel => kernelFields f kernel

/-- the name that a call is listed under -/
def callName (c : Call) : String :=
  match c.primitive with
  | .depthwiseConv => Primitive.conv.name
  | .groupedConv => Primitive.conv.name
  | p => p.name

def writeCall (c : Call) : Json := .object (("primitive", .string (callName c)) :: callFields f c)

end TensorGraph.Exchange
