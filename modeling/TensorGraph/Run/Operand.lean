/-
Looking up operands.

Model: a name stands for its binding, a literal for a fresh scratch tensor of rank 0 that holds it. A `Supply` says how
the two are come by; all the rest is the same for every supply. Slots are filled in order, so the first operand that is
missing or unsuitable is the fault, and what came before it is already there.
-/
import TensorGraph.Operator.Attribute
import TensorGraph.Operator.Basic
import TensorGraph.Run.Session

namespace TensorGraph

/-- how the tensors of operands are come by -/
structure Supply (m : Type → Type) (τ : Type) where
  /-- the tensor of a name -/
  named : String → m τ
  /-- a tensor for a literal -/
  literal : Literal → m τ

namespace Supply

variable {m : Type → Type} {τ : Type} [Monad m] [MonadExcept RunError m] (supply : Supply m τ)

/-- the tensor that a value of an operand stands for -/
def resolve (op : Operation) (key : String) (v : Value) : m τ :=
  match v with
  | .identifier name => supply.named name
  | v =>
    match v.literal? with
    | some l => supply.literal l
    | none => throw (op.malformed key s!"expected a tensor or literal, found {v.sortName}")

/-- the tensors of several values, from left to right -/
def resolveItems (op : Operation) (key : String) : List Value → m (List τ)
  | [] => pure []
  | v :: rest => do
    let t ← supply.resolve op key v
    let rest ← resolveItems op key rest
    return t :: rest

/-- the value of an operand that has to be there -/
def required (op : Operation) (key what : String) : Option Value → m Value
  | some v => pure v
  | none => throw (op.malformed key s!"missing {what}")

/-- the tensors of an operand that has to be an array -/
def resolveList (op : Operation) (key : String) (v : Value) : m (List τ) :=
  match v.array? with
  | some items => supply.resolveItems op key items
  | none => throw (op.malformed key "expected an array of tensors")

/-- the items of a container, or the value itself -/
def itemsOrSelf : Value → List Value
  | .array items => items
  | .tuple items => items
  | v => [v]

/-- the tensors of all operands; containers are opened once, and what they hold has to be tensors or literals -/
def resolveOperands (op : Operation) : List (String × Value) → m (List τ)
  | [] => pure []
  | (key, v) :: rest => do
    let ts ← supply.resolveItems op key (itemsOrSelf v)
    let rest ← resolveOperands op rest
    return ts ++ rest

/-- fill one slot -/
def fillSlot (op : Operation) : (slot : Slot) → m (slot.Filling τ)
  | .input key => do
    let v ← required op key "input" (op.input? key)
    supply.resolve op key v
  | .output key => do
    let v ← required op key "output" (op.output? key)
    supply.resolve op key v
  | .optional key fallback => supply.resolve op key ((op.input? key).getD fallback)
  | .inputList key => do
    let v ← required op key "input" (op.input? key)
    supply.resolveList op key v
  | .outputList key => do
    let v ← required op key "output" (op.output? key)
    supply.resolveList op key v
  | .everything => supply.resolveOperands op op.operands

/-- fill all slots, from left to right -/
def fillSlots (op : Operation) : (slots : List Slot) → m (Operands τ slots)
  | [] => pure ()
  | slot :: rest => do
    let h ← supply.fillSlot op slot
    let hs ← fillSlots op rest
    return (h, hs)

end Supply

/-- a session supplies bound tensors and scratch tensors -/
def Session.supply {σ τ : Type} [Engine σ τ] : Supply (SessionM σ τ) τ := ⟨Session.handle, Session.literal⟩

end TensorGraph
