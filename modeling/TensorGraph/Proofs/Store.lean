/-
Sessions without an engine: a store of named tensors.

Model: a store keeps kind, shape and elements of each named tensor, and the names that were cleared. Its steps are
those of a session, said without handles, buffers or scratch tensors. A fault says nothing but that it is one, and the
state that was reached is kept as in a session. An operation is accepted if it can be decided and what it moves fits;
kernels move nothing. What is moved is said element by element: new tensors are all zeros, a literal is its one element,
and a constant has the items of its value, or its single item in every place.
-/
import TensorGraph.Proofs.Transfer
import TensorGraph.Run.Step

namespace TensorGraph

/-- a named tensor and its elements -/
structure Entry where
  kind : ElementKind
  shape : List Nat
  data : Payload
deriving DecidableEq, Repr

instance : Handle Entry where
  kind := Entry.kind
  shape := Entry.shape

structure Store where
  entries : NameMap Entry
  /-- names whose tensors were cleared -/
  reserved : List String
deriving DecidableEq, Repr

/-- a step of a store; a failing step keeps the state it reached -/
abbrev StoreM := EStateM Unit Store

namespace Store

def empty : Store := ⟨.empty, []⟩

/-! ## Named tensors -/

/-- the elements of a new tensor; nothing can be of the open kind -/
def blank? (t : Tensor) : Option Payload := do
  let zero ← t.kind.zero?
  Payload.ofElements? t.kind (List.replicate (volume t.shape) zero)

/-- add a tensor of zeros under a name that was never used -/
def create (t : Tensor) : StoreM Unit := fun st =>
  if st.entries.contains t.name ∨ t.name ∈ st.reserved then .error () st
  else
    match blank? t with
    | none => .error () st
    | some zeros => .ok () { st with entries := st.entries.insert t.name ⟨t.kind, t.shape, zeros⟩ }

/-- replace the elements of a tensor by others of its kind and number -/
def write (t : Tensor) : StoreM Unit := fun st =>
  match t.data, st.entries.find? t.name with
  | some p, some e =>
    if p.kind = e.kind ∧ p.length = volume e.shape then
      .ok () { st with entries := st.entries.insert t.name { e with data := p } }
    else .error () st
  | _, _ => .error () st

def read (t : Tensor) : StoreM Tensor := fun st =>
  match st.entries.find? t.name with
  | some e => .ok { t with data := some e.data } st
  | none => .error () st

def clear : StoreM Unit := fun st => .ok () ⟨.empty, st.reserved ++ st.entries.keys⟩

/-! ## Operations -/

/-- the elements that a value stands for; a literal is a single one, of its own kind -/
def contents? (st : Store) : Value → Option Payload
  | .identifier name => (st.entries.find? name).map Entry.data
  | .scalar x => some (.float [.ofBinary64 x])
  | .integer n => some (.integer [n])
  | .logical b => some (.bool [b])
  | _ => none

/-- replace the elements that a value stands for; those of a literal are not kept -/
def put (st : Store) (v : Value) (p : Payload) : Store :=
  match v with
  | .identifier name => { st with entries := st.entries.modify name fun e => { e with data := p } }
  | _ => st

/-- what an operation does to a store, if that can be done: copies need the same kind and number of elements -/
def effect (st : Store) (o : Operator) (op : Operation) : Option Store :=
  match o with
  | .constant => do
    let target ← op.output? "output"
    let old ← st.contents? target
    let p ← op.constantData? old.kind old.length
    return st.put target p
  | .reshape | .update => do
    let (source, target) ← o.transfer? op
    let p ← st.contents? source
    let old ← st.contents? target
    if p.kind = old.kind ∧ p.length = old.length then return st.put target p else none
  | _ => some st

/-- whether an operation can be decided from the kinds and shapes of its tensors -/
def decides (st : Store) (o : Operator) (op : Operation) : Bool := (o.decision st.entries.find? op).outcome.isOk

def perform (o : Operator) (op : Operation) : StoreM Unit := fun st =>
  if op.dtype.isConcrete ∧ st.decides o op then
    match st.effect o op with
    | some st => .ok () st
    | none => .error () st
  else .error () st

def performNamed (op : Operation) : StoreM Unit :=
  match Operator.named? op.name with
  | some r => perform r.operator op
  | none => throw ()

/-! ## Runs -/

def prepare (key : String) (t : Tensor) : StoreM Unit := fun st =>
  if st.entries.contains key then .ok () st
  else (do
    create t
    if t.data.isSome then write t) st

def materialize : List (String × Tensor) → StoreM Unit
  | [] => pure ()
  | (key, t) :: rest => do
    prepare key t
    materialize rest

def performAll : List Operation → StoreM Unit
  | [] => pure ()
  | op :: rest => do
    performNamed op
    performAll rest

def run (options : RunOptions) (g : Graph) : StoreM Unit := do
  if options.materialize then materialize g.tensors.entries
  performAll g.operations

/-! ## Steps -/

/-- take a step; only reading has something to say -/
def take : Step → StoreM (Option Tensor)
  | .create t => do
    create t
    return none
  | .write t => do
    write t
    return none
  | .read t => do
    let t ← read t
    return some t
  | .perform o op => do
    perform o op
    return none
  | .run options _ g => do
    run options g
    return none
  | .clear => do
    clear
    return none

/-- the state after a history of steps, going on after faults -/
def after (st : Store) (history : List Step) : Store := history.foldl (fun st step => reached (take step st)) st

end Store

end TensorGraph
