/-
Sessions: one engine, and the names of the tensors that it holds.

Model: a tensor is bound under its name at most once in the life of a session; clearing releases it but keeps its name
reserved. Literal operands live in scratch tensors, which are released when the operation that needed them is over.
Every request to the engine goes through `invoke`, which counts it and names the primitive in a failure. The state is
kept when a step fails, so what happens after a failure is defined too.
-/
import TensorGraph.Engine.Basic
import TensorGraph.Graph.Basic
import TensorGraph.Run.Error

namespace TensorGraph

/-- an engine `σ` with handles `τ`, and what the session knows about it -/
structure Session (σ τ : Type) where
  engine : σ
  bindings : NameMap τ
  /-- names whose tensors were cleared -/
  reserved : List String
  /-- tensors of literal operands, oldest first -/
  scratch : List τ
  /-- requests to the engine so far -/
  requests : Nat

/-- a step of a session; a failing step keeps the state it reached -/
abbrev SessionM (σ τ : Type) := EStateM RunError (Session σ τ)

namespace Session

variable {σ τ α : Type} [Engine σ τ]

/-- a session without tensors around an engine -/
def start (engine : σ) : Session σ τ := ⟨engine, .empty, [], [], 0⟩

/-! ## Requests -/

/-- make one request to the engine -/
def invoke (p : Primitive) (act : EStateM String σ α) : SessionM σ τ α := fun s =>
  match act s.engine with
  | .ok a engine => .ok a { s with engine, requests := s.requests + 1 }
  | .error why engine => .error (.engine p why) { s with engine, requests := s.requests + 1 }

/-- take two steps, the second one even if the first fails; the first failure counts -/
def both (first second : SessionM σ τ Unit) : SessionM σ τ Unit := fun s =>
  match first s with
  | .ok _ s => second s
  | .error e s =>
    match second s with
    | .ok _ s => .error e s
    | .error _ s => .error e s

/-- release every handle, the failing ones notwithstanding -/
def releaseAll : List τ → SessionM σ τ Unit
  | [] => pure ()
  | t :: rest => both (invoke .release (Engine.release t)) (releaseAll rest)

/-! ## Named tensors -/

/-- whether a name is bound -/
def isBound (s : Session σ τ) (name : String) : Bool := s.bindings.contains name

/-- whether a name was ever bound -/
def isTaken (s : Session σ τ) (name : String) : Bool := s.bindings.contains name || s.reserved.contains name

/-- the handle bound to a name -/
def handle (name : String) : SessionM σ τ τ := fun s =>
  match s.bindings.find? name with
  | some t => .ok t s
  | none => .error (.unboundTensor name) s

/-- allocate a declared tensor and bind it under its name -/
def bindTensor (t : Tensor) : SessionM σ τ Unit := fun s =>
  if s.isTaken t.name then .error (.duplicateTensor t.name) s
  else if !t.kind.isConcrete then .error (.unsupportedKind t.name t.kind) s
  else
    match invoke .allocate (Engine.allocate t.kind t.shape) s with
    | .ok h s => .ok () { s with bindings := s.bindings.insert t.name h }
    | .error e s => .error e s

/-- fill a bound tensor with its payload -/
def store (t : Tensor) : SessionM σ τ Unit :=
  match t.data with
  | none => throw (.malformedOperand "write_tensor" t.name "tensor has no literal payload")
  | some p => do
    let h ← handle t.name
    invoke .fill (Engine.fill h p)

/-- read a bound tensor back; the answer is the tensor with what was read as its payload -/
def load (t : Tensor) : SessionM σ τ Tensor := do
  let h ← handle t.name
  let p ← invoke .read (Engine.read h)
  return { t with data := some p }

/-- release all tensors, named ones and scratch; the names stay reserved -/
def clear : SessionM σ τ Unit := fun s =>
  releaseAll (s.bindings.values ++ s.scratch)
    { s with bindings := .empty, reserved := s.reserved ++ s.bindings.keys, scratch := [] }

/-! ## Scratch tensors -/

/-- a scratch tensor holding one literal; it counts as scratch before it is filled, so a failed fill does not lose it -/
def literal (l : Literal) : SessionM σ τ τ := do
  let h ← invoke .allocate (Engine.allocate l.kind [])
  modify fun s => { s with scratch := s.scratch ++ [h] }
  invoke .fill (Engine.fill h l.toPayload)
  return h

/-- release the scratch tensors -/
def releaseScratch : SessionM σ τ Unit := fun s => releaseAll s.scratch { s with scratch := [] }

/-! ## Description -/

/-- a one-line description of the state -/
def describe (s : Session σ τ) : String :=
  "Context \x7b engine: \"" ++ Engine.name s.engine ++ s!"\", bound: {s.bindings.size}, scratch: {s.scratch.length}, "
    ++ s!"engine_calls: {s.requests} " ++ "\x7d"

end Session

end TensorGraph
