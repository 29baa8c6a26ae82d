/-
Values, payloads and literals in the exchange format.

Model: a variant is an object whose one member is named for it and holds what it carries. How floating point numbers are
written is left open by `FloatForm`; `FloatForm.numbers` writes plain JSON numbers, which cannot carry infinities and
NaNs.
-/
import TensorGraph.Exchange.Name
import TensorGraph.Value

namespace TensorGraph

/-- how floating point numbers are written -/
structure FloatForm where
  write64 : Binary64 → Json
  read64 : Json → Option Binary64
  write32 : Binary32 → Json
  read32 : Json → Option Binary32

/-- plain numbers; a number written as an integer is read as the nearest double or single -/
def FloatForm.numbers : FloatForm where
  write64 x := if x.isFinite then .decimal x else .null
  read64
    | .integer n => some (.ofInt n)
    | .decimal x => some x
    | _ => none
  write32 x := if x.toBinary64.isFinite then .decimal x.toBinary64 else .null
  read32
    | .integer n => some (.ofInt n)
    | .decimal x => some (.ofBinary64 x)
    | _ => none

namespace Exchange

variable (f : FloatForm)

def writeInt64 (n : Int64) : Json := .integer n.toInt

/-! ## Payloads and literals -/

def writePayload : Payload → Json
  | .bool l => .tagged "Bool" (.list .bool l)
  | .integer l => .tagged "Integer" (.list writeInt64 l)
  | .float l => .tagged "Float" (.list f.write32 l)

def readPayload : Json → Option Payload
  | .object [("Bool", body)] => (body.list? Json.bool?).map .bool
  | .object [("Integer", body)] => (body.list? Json.int64?).map .integer
  | .object [("Float", body)] => (body.list? f.read32).map .float
  | _ => none

def writeLiteral : Literal → Json
  | .bool b => .tagged "bool" (.bool b)
  | .integer n => .tagged "integer" (writeInt64 n)
  | .float x => .tagged "float" (f.write32 x)

def readLiteral : Json → Option Literal
  | .object [("bool", body)] => body.bool?.map .bool
  | .object [("integer", body)] => body.int64?.map .integer
  | .object [("float", body)] => (f.read32 body).map .float
  | _ => none

/-! ## Values -/

mutual

def writeValue : Value → Json
  | .identifier name => .tagged "identifier" (.string name)
  | .scalar x => .tagged "scalar" (f.write64 x)
  | .integer n => .tagged "integer" (writeInt64 n)
  | .logical b => .tagged "logical" (.bool b)
  | .string text => .tagged "string" (.string text)
  | .array items => .tagged "array" (.array (writeValues items))
  | .tuple items => .tagged "tuple" (.array (writeValues items))

def writeValues : List Value → List Json
  | [] => []
  | v :: rest => writeValue v :: writeValues rest

end

/-- a value without items -/
def readPlain (tag : String) (body : Json) : Option Value :=
  match tag with
  | "identifier" => body.string?.map .identifier
  | "scalar" => (f.read64 body).map .scalar
  | "integer" => body.int64?.map .integer
  | "logical" => body.bool?.map .logical
  | "string" => body.string?.map .string
  | _ => none

mutual

def readValue : Json → Option Value
  | .object members => readVariant members
  | _ => none

/-- the variant of an object with one member -/
def readVariant : List (String × Json) → Option Value
  | [member] => readMember member
  | _ => none

def readMember : String × Json → Option Value
  | (tag, body) => readBody tag body

/-- what a variant carries -/
def readBody (tag : String) : Json → Option Value
  | .array items =>
    match readValues items with
    | none => none
    | some items => if tag = "array" then some (.array items) else if tag = "tuple" then some (.tuple items) else none
  | body => readPlain f tag body

def readValues : List Json → Option (List Value)
  | [] => some []
  | j :: rest =>
    match readValue j with
    | none => none
    | some v =>
      match readValues rest with
      | none => none
      | some vs => some (v :: vs)

end

end Exchange

end TensorGraph
