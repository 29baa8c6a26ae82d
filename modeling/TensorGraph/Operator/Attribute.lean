/-
Attributes of operations, read as what an operator expects.

Model: a reader gives the value of an attribute, its default if the attribute is missing, or the fault that it is
something else. An empty list counts as missing, so the list readers answer `none` for both.
-/
import TensorGraph.Run.Error
import TensorGraph.Graph.Basic
import TensorGraph.Shape.Axis

namespace TensorGraph.Operation

/-! ## Faults -/

/-- an operand or attribute that is not what it should be -/
def malformed (op : Operation) (key reason : String) : RunError := .malformedOperand op.name key reason

/-- something that is not implemented -/
def unsupported (op : Operation) (reason : String) : RunError := .unsupportedOperation op.name reason

/-- an attribute of another sort than expected -/
def mismatch (op : Operation) (key expected : String) (found : Value) : RunError :=
  op.malformed key s!"expected {expected}, found {found.sortName}"

/-! ## Single values -/

/-- an attribute read by `view`, with a default -/
def single {α : Type} (op : Operation) (key expected : String) (view : Value → Option α) (default : α) :
    Except RunError α :=
  match op.attribute? key with
  | none => .ok default
  | some v =>
    match view v with
    | some x => .ok x
    | none => .error (op.mismatch key expected v)

def integer (op : Operation) (key : String) (default : Int64) : Except RunError Int64 :=
  op.single key "an integer" Value.integer? default

def logical (op : Operation) (key : String) (default : Bool) : Except RunError Bool :=
  op.single key "a logical" Value.logical? default

def string (op : Operation) (key : String) (default : String) : Except RunError String :=
  op.single key "a string" Value.string? default

/-! ## Lists -/

/-- the items of a list attribute, if there are any -/
def items (op : Operation) (key expected : String) : Except RunError (Option (Value × List Value)) :=
  match op.attribute? key with
  | none => .ok none
  | some v =>
    match v.array? with
    | none => .error (op.mismatch key expected v)
    | some [] => .ok none
    | some l => .ok (some (v, l))

/-- a list of integers -/
def integers (op : Operation) (key : String) : Except RunError (Option (List Int)) := do
  match ← op.items key "an integer array" with
  | none => .ok none
  | some (v, l) =>
    match l.mapM Value.integer? with
    | some l => .ok (some (l.map Int64.toInt))
    | none => .error (op.mismatch key "an integer array" v)

/-- a list of integers none of which is negative -/
def sizes (op : Operation) (key : String) : Except RunError (Option (List Nat)) := do
  match ← op.integers key with
  | none => .ok none
  | some l =>
    match l.find? (· < 0) with
    | none => .ok (some (l.map Int.toNat))
    | some n => .error (op.malformed key s!"negative entry {n}")

/-- one number of a pair -/
def pairEntry (op : Operation) (key : String) (v : Value) : Except RunError Nat :=
  match v.integer? with
  | some n => if n.toInt < 0 then .error (op.mismatch key "non-negative integer pairs" v) else .ok n.toInt.toNat
  | none => .error (op.mismatch key "non-negative integer pairs" v)

/-- the pairs of a list attribute `whole` -/
def pairs (op : Operation) (key : String) (whole : Value) : List Value → Except RunError (List (Nat × Nat))
  | [] => .ok []
  | v :: rest =>
    match v.tuple? with
    | some [a, b] => do
      let before ← op.pairEntry key a
      let after ← op.pairEntry key b
      let rest ← op.pairs key whole rest
      .ok ((before, after) :: rest)
    | _ => .error (op.mismatch key "an array of pairs" whole)

/-- a list of pairs, before and after each axis -/
def padding (op : Operation) (key : String) : Except RunError (Option (List (Nat × Nat))) := do
  match ← op.items key "an array of pairs" with
  | none => .ok none
  | some (whole, l) =>
    let l ← op.pairs key whole l
    .ok (some l)

/-! ## Axes -/

/-- an axis of a tensor of a rank, from either end -/
def axisIndex (op : Operation) (key : String) (axis : Int) (rank : Nat) : Except RunError Nat :=
  match axisIndex? axis rank with
  | some i => .ok i
  | none => .error (op.malformed key s!"axis {axis} out of range for rank {rank}")

/-- the one axis of a list; more than one is not implemented -/
def singleAxis (op : Operation) (key : String) (default : List Int) (rank : Nat) : Except RunError Nat := do
  match (← op.integers key).getD default with
  | [axis] => op.axisIndex key axis rank
  | [] => .error (op.malformed key "no axis given")
  | _ => .error (op.unsupported "multiple axes not implemented")

/-- all axes of a list, each read against the rank -/
def axisList (op : Operation) (key : String) (rank : Nat) : Except RunError (List Nat) := do
  ((← op.integers key).getD []).mapM fun axis => op.axisIndex key axis rank

/-- refuse ranks that an operator does not handle -/
def checkRank (op : Operation) (rank max : Nat) : Except RunError Unit :=
  if max < rank then .error (op.unsupported s!"rank {rank} exceeds the supported maximum of {max}") else .ok ()

/-! ## Literals -/

/-- a literal as an element of the kind of the operation -/
def literalOfKind (op : Operation) (key : String) (v : Value) : Except RunError Literal :=
  match op.dtype, v with
  | .float, .scalar x => .ok (.float (.ofBinary64 x))
  | .float, .integer n => .ok (.float (.ofInt n.toInt))
  | .integer, .integer n => .ok (.integer n)
  | .integer, .scalar x => .ok (.integer x.toInt64)
  | .bool, .logical b => .ok (.bool b)
  | .bool, .scalar x => .ok (.bool (!x.isZero))
  | .generic, _ => .error (.unsupportedKind op.name op.dtype)
  | kind, v => .error (op.mismatch key kind.label v)

/-- the elements of a literal, read by `view`; the first that is not of the kind is the fault -/
def elements {α : Type} (op : Operation) (kind : ElementKind) (view : Value → Option α) :
    List Value → Except RunError (List α)
  | [] => .ok []
  | v :: rest =>
    match view v with
    | some x => do
      let rest ← op.elements kind view rest
      .ok (x :: rest)
    | none => .error (op.malformed "value" s!"{v.sortName} literal in a {kind.label} constant")

/-- a literal, or an array of them, as a payload of a kind -/
def payloadOfKind (op : Operation) (kind : ElementKind) (v : Value) : Except RunError Payload :=
  let items := match v with
    | .array items => items
    | single => [single]
  match kind with
  | .float => do
    let l ← op.elements kind (fun v => v.scalar?.map Binary32.ofBinary64) items
    .ok (.float l)
  | .integer => do
    let l ← op.elements kind Value.integer? items
    .ok (.integer l)
  | .bool => do
    let l ← op.elements kind Value.logical? items
    .ok (.bool l)
  | .generic => .error (.unsupportedKind op.name kind)

end TensorGraph.Operation
