/-
Names of kinds and operators in the exchange format, written in lower case with underscores.
-/
import TensorGraph.Engine.Kernel
import TensorGraph.Json.Basic

namespace TensorGraph

/-- something with finitely many values, each of which has a name -/
class Named (α : Type) where
  all : List α
  name : α → String

namespace Named

variable {α : Type} [Named α]

/-- the value of a name -/
def ofName? (text : String) : Option α := all.find? fun x => name x = text

def write (x : α) : Json := .string (name x)

/-- a bare name -/
def read (j : Json) : Option α := j.bareName?.bind ofName?

end Named

/-! ## Kinds -/

instance : Named ElementKind where
  all := [.bool, .integer, .float, .generic]
  name
    | .bool => "bool"
    | .integer => "integer"
    | .float => "float"
    | .generic => "generic"

/-! ## Operators -/

instance : Named UnaryOp where
  all := [.copy, .neg, .rcp, .exp, .log, .sin, .cos, .tan, .abs, .sign, .not, .floor, .ceil, .round, .sqr, .sqrt,
    .rsqr, .rsqrt, .log2, .relu, .sigmoid, .tanh, .elu, .softplus, .gelu, .silu]
  name
    | .copy => "copy"
    | .neg => "neg"
    | .rcp => "rcp"
    | .exp => "exp"
    | .log => "log"
    | .sin => "sin"
    | .cos => "cos"
    | .tan => "tan"
    | .abs => "abs"
    | .sign => "sign"
    | .not => "not"
    | .floor => "floor"
    | .ceil => "ceil"
    | .round => "round"
    | .sqr => "sqr"
    | .sqrt => "sqrt"
    | .rsqr => "rsqr"
    | .rsqrt => "rsqrt"
    | .log2 => "log2"
    | .relu => "relu"
    | .sigmoid => "sigmoid"
    | .tanh => "tanh"
    | .elu => "elu"
    | .softplus => "softplus"
    | .gelu => "gelu"
    | .silu => "silu"

instance : Named BinaryOp where
  all := [.add, .sub, .mul, .div, .pow, .min, .max, .lt, .gt, .le, .ge, .eq, .ne, .and, .or]
  name
    | .add => "add"
    | .sub => "sub"
    | .mul => "mul"
    | .div => "div"
    | .pow => "pow"
    | .min => "min"
    | .max => "max"
    | .lt => "lt"
    | .gt => "gt"
    | .le => "le"
    | .ge => "ge"
    | .eq => "eq"
    | .ne => "ne"
    | .and => "and"
    | .or => "or"

instance : Named ReduceOp where
  all := [.sum, .mean, .max, .min, .any, .all]
  name
    | .sum => "sum"
    | .mean => "mean"
    | .max => "max"
    | .min => "min"
    | .any => "any"
    | .all => "all"

instance : Named ArgReduceOp where
  all := [.argMax, .argMin]
  name
    | .argMax => "arg_max"
    | .argMin => "arg_min"

instance : Named PoolOp where
  all := [.sum, .avg, .max]
  name
    | .sum => "sum"
    | .avg => "avg"
    | .max => "max"

end TensorGraph
