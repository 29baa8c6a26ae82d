/-
An engine in memory that keeps a log of everything it was asked to do.

Model: storage works on real buffers, so what is written before a run can be read after it. Kernels are logged and
leave all buffers alone. A primitive that fails leaves neither a trace in the log nor a change in a buffer. `failOn`
names a primitive that always fails.
-/
import TensorGraph.Engine.Basic

namespace TensorGraph

/-! ## Log entries -/

/-- one logged request; tensors are given by buffer number -/
inductive Call
  | allocate (id : Nat) (kind : ElementKind) (shape : List Nat)
  | release (id : Nat)
  | fill (id : Nat)
  | read (id : Nat)
  | copy (x y : Nat)
  | compute (kernel : Kernel Nat)
deriving DecidableEq, Repr

namespace Call

def primitive : Call → Primitive
  | .allocate .. => .allocate
  | .release .. => .release
  | .fill .. => .fill
  | .read .. => .read
  | .copy .. => .copy
  | .compute k => k.primitive

/-- whether the request only moves data in or out of the engine -/
def isStorage : Call → Bool
  | .allocate .. | .release .. | .fill .. | .read .. => true
  | .copy .. | .compute .. => false

end Call

/-! ## Buffers -/

/-- a handle to a buffer -/
structure BufferRef where
  id : Nat
  kind : ElementKind
  shape : List Nat
deriving DecidableEq, Repr, Inhabited

instance : Handle BufferRef where
  kind := BufferRef.kind
  shape := BufferRef.shape

/-- the state of the engine; a released buffer is `none` and its number is not used again -/
structure Recorder where
  buffers : Array (Option Payload)
  log : Array Call
  /-- name of the primitive that always fails -/
  failOn : Option String
deriving DecidableEq, Repr, Inhabited

/-! ## Faults -/

/-- why a primitive failed -/
inductive Fault
  /-- it is the one that always fails -/
  | injected (primitive : Primitive)
  /-- nothing can be stored as the kind -/
  | kindless (kind : ElementKind)
  /-- a buffer that was released before, or that is not of this engine -/
  | released (id : Nat)
  /-- the same, for a buffer that was to be used -/
  | notLive (id : Nat)
  /-- contents of another size or kind than the buffer has -/
  | misfit (id size : Nat) (kind : ElementKind) (givenSize : Nat) (givenKind : ElementKind)
  /-- two buffers that differ in size or kind -/
  | incompatible (x y : Nat)
deriving DecidableEq, Repr

/-- the text shown to the user -/
def Fault.message : Fault → String
  | .injected primitive => s!"injected failure in '{primitive.name}'"
  | .kindless kind => s!"cannot allocate tensor of kind '{kind.label}'"
  | .released id => s!"double release of tensor #{id}"
  | .notLive id => s!"tensor #{id} is not live"
  | .misfit id size kind givenSize givenKind =>
    s!"cannot fill {size} x {kind.label} tensor #{id} with {givenSize} x {givenKind.label}"
  | .incompatible x y => s!"copy between incompatible tensors #{x} and #{y}"

namespace Recorder

variable {α : Type}

/-- a fresh engine without failures -/
def fresh : Recorder := ⟨#[], #[], none⟩

/-- a fresh engine on which one primitive always fails -/
def failingOn (primitive : String) : Recorder := ⟨#[], #[], some primitive⟩

/-- contents of a live buffer -/
def data? (r : Recorder) (id : Nat) : Option Payload := (r.buffers[id]?).join

/-- how many buffers are live -/
def liveCount (r : Recorder) : Nat := r.buffers.countP Option.isSome

/-- the log without storage requests -/
def computeCalls (r : Recorder) : List Call := r.log.toList.filter fun c => !c.isStorage

/-- empty the log and hand out what was in it -/
def drain (r : Recorder) : List Call × Recorder := (r.log.toList, { r with log := #[] })

/-! ## Primitives -/

/-- do a primitive unless it is the one that fails -/
def attempt (p : Primitive) (act : EStateM Fault Recorder α) : EStateM Fault Recorder α := fun r =>
  if r.failOn = some p.name then .error (.injected p) r else act r

def allocate (kind : ElementKind) (shape : List Nat) : EStateM Fault Recorder BufferRef :=
  attempt .allocate fun r =>
    match Payload.zeros kind (volume shape) with
    | none => .error (.kindless kind) r
    | some zeros =>
      let id := r.buffers.size
      .ok ⟨id, kind, shape⟩
        { r with buffers := r.buffers.push (some zeros), log := r.log.push (.allocate id kind shape) }

def release (t : BufferRef) : EStateM Fault Recorder Unit :=
  attempt .release fun r =>
    match r.data? t.id with
    | none => .error (.released t.id) r
    | some _ =>
      .ok () { r with buffers := r.buffers.setIfInBounds t.id none, log := r.log.push (.release t.id) }

/-- whether contents can be replaced by others: same kind and length -/
def fits (old new : Payload) : Bool := old.kind = new.kind ∧ old.length = new.length

def fill (t : BufferRef) (p : Payload) : EStateM Fault Recorder Unit :=
  attempt .fill fun r =>
    match r.data? t.id with
    | none => .error (.notLive t.id) r
    | some old =>
      if fits old p then
        .ok () { r with buffers := r.buffers.setIfInBounds t.id (some p), log := r.log.push (.fill t.id) }
      else .error (.misfit t.id old.length old.kind p.length p.kind) r

def read (t : BufferRef) : EStateM Fault Recorder Payload :=
  attempt .read fun r =>
    match r.data? t.id with
    | none => .error (.notLive t.id) r
    | some p => .ok p { r with log := r.log.push (.read t.id) }

def copy (x y : BufferRef) : EStateM Fault Recorder Unit :=
  attempt .copy fun r =>
    match r.data? x.id with
    | none => .error (.notLive x.id) r
    | some source =>
      match r.data? y.id with
      | none => .error (.notLive y.id) r
      | some target =>
        if fits source target then
          .ok () { r with buffers := r.buffers.setIfInBounds y.id (some source), log := r.log.push (.copy x.id y.id) }
        else .error (.incompatible x.id y.id) r

/-- the primitive that a kernel is checked as -/
def checked : Kernel BufferRef → Primitive
  | .unary .. => .unary
  | .binary .. => .binary
  | .select .. => .select
  | .reduce .. => .reduce
  | .argReduce .. => .argReduce
  | .softmax .. => .softmax
  | .conv .direct .. => .conv
  | .conv .depthwise .. => .depthwiseConv
  | .conv (.grouped _) .. => .groupedConv
  | .pool .. => .pool
  | .matmul .. => .matmul
  | .linear .. => .linear
  | .transpose .. => .transpose
  | .concat .. => .concat
  | .split .. => .split
  | .padConstant .. => .padConstant
  | .padReplicate .. => .padReplicate
  | .tile .. => .tile
  | .slice .. => .slice

/-- kernels are logged, whatever their tensors are -/
def compute (k : Kernel BufferRef) : EStateM Fault Recorder Unit :=
  attempt (checked k) fun r => .ok () { r with log := r.log.push (.compute (k.map BufferRef.id)) }

/-- the same primitive, with its faults put in words -/
def inWords (act : EStateM Fault Recorder α) : EStateM String Recorder α := act.adaptExcept Fault.message

instance : Engine Recorder BufferRef where
  name _ := "trace"
  allocate kind shape := inWords (allocate kind shape)
  release t := inWords (release t)
  fill t p := inWords (fill t p)
  read t := inWords (read t)
  copy x y := inWords (copy x y)
  compute k := inWords (compute k)

end Recorder

end TensorGraph
