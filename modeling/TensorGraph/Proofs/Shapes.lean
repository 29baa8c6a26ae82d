/-
Where the shapes of a run come from.

Model: a graph `Declares` the shapes of its tensors, and the one without axes, which is that of literals. A run on a fresh
recorder `Measures` the shapes of the buffers that it allocates and of the operands that its operations find: elements
are counted and axes are numbered for these only. A log is `Laid` out by a graph if all buffers in it have declared
shapes.

Main results:
- `Laid.keeps_perform`, `Laid.keeps_prepareAll`: whatever a run does, its log stays laid out by its graph;
- `declares_of_measures`: a run measures no shape but those that its graph declares.
-/
import TensorGraph.Proofs.Composition
import TensorGraph.Proofs.Requests

namespace TensorGraph

/-! ## Model -/

/-- the shape that a request allocates a buffer with, if it does -/
def Call.shape? : Call → Option (List Nat)
  | .allocate _ _ shape => some shape
  | _ => none

/-- the shapes of the tensors of a graph, and that of literals -/
def Graph.Declares (g : Graph) (shape : List Nat) : Prop := shape = [] ∨ ∃ t ∈ g.tensors.values, t.shape = shape

namespace Session

/-- a log whose buffers have shapes that a graph declares -/
def Laid (g : Graph) (s : Session Recorder BufferRef) : Prop :=
  ∀ c ∈ s.engine.log.toList, ∀ shape, c.shape? = some shape → g.Declares shape

/-- the shapes that a run on a fresh recorder computes with -/
inductive Measures (failOn : Option String) (g : Graph) : List Nat → Prop
  /-- of a buffer that is allocated -/
  | allocated {clock : Clock} {id : Nat} {kind : ElementKind} {shape : List Nat}
    (h : .allocate id kind shape ∈ (reached (runGraph default clock g (fresh failOn))).engine.log.toList) :
    Measures failOn g shape
  /-- of an operand of an operation that is reached and finds its operands -/
  | found {index : Nat} {op : Operation} {s : Session Recorder BufferRef} {r : Registration}
    {xs : Operands (Operand BufferRef) r.operator.signature} {ls : List Literal} {x : Operand BufferRef}
    (hop : g.operations[index]? = some op) (hreaches : Reaches default g (fresh failOn) index s)
    (hnamed : Operator.named? op.name = some r)
    (hfound : (Lookup.supply s.bindings.find?).fillSlots op r.operator.signature [] = .ok xs ls)
    (hx : x ∈ Operands.toList r.operator.signature xs) : Measures failOn g (Handle.shape x)

/-! ## Requests -/

namespace Laid

variable {g : Graph}

/-- one more request in the log -/
theorem snoc {s s' : Session Recorder BufferRef} (h : Laid g s) {c : Call}
    (hlog : s'.engine.log.toList = s.engine.log.toList ++ [c])
    (hc : ∀ shape, c.shape? = some shape → g.Declares shape) : Laid g s' := by
  intro c' hc'
  rw [hlog] at hc'
  rcases List.mem_append.1 hc' with hold | hnew
  · exact h c' hold
  · exact List.mem_singleton.1 hnew ▸ hc

/-- a primitive that gives out no buffer -/
theorem keeps_request {α : Type} {c : Call} {act : EStateM Fault Recorder α} (ha : Recorder.Adds c act)
    (hc : c.shape? = none) (p : Primitive) :
    Keeps (Laid g) (invoke p (Recorder.inWords act) : SessionM Recorder BufferRef α) := by
  intro s hs
  rw [reached_invoke, Recorder.reached_inWords]
  cases hact : act s.engine with
  | error f r =>
    obtain rfl := ha.atomic _ f r hact
    exact hs
  | ok a r => exact hs.snoc (ha.ok hact).1 fun shape hshape => nomatch hc.symm.trans hshape

theorem keeps_allocate (kind : ElementKind) {shape : List Nat} (h : g.Declares shape) :
    Keeps (Laid g) (invoke .allocate (Engine.allocate kind shape) : SessionM Recorder BufferRef BufferRef) := by
  intro s hs
  rw [reached_invoke, Recorder.engine_allocate, Recorder.reached_inWords]
  cases hact : Recorder.allocate kind shape s.engine with
  | error f r =>
    obtain rfl := Recorder.atomic_allocate kind shape _ f r hact
    exact hs
  | ok t r =>
    obtain ⟨-, -, zeros, -, -, rfl⟩ := Recorder.allocate_ok hact
    refine hs.snoc (Recorder.log_adding ..) fun shape' hshape => ?_
    cases hshape
    exact h

theorem keeps_releaseAll (ts : List BufferRef) : Keeps (Laid g) (releaseAll ts) := by
  induction ts with
  | nil => exact Keeps.pure ()
  | cons t rest ih => exact (keeps_request (Recorder.adds_release t) rfl .release).both ih

/-- literals have no axes -/
theorem keeps_literal (l : Literal) : Keeps (Laid g) (literal l : SessionM Recorder BufferRef BufferRef) := by
  refine (keeps_allocate l.kind (Or.inl rfl)).bind fun t => ?_
  have hmodify : Keeps (Laid g) (modify fun s : Session Recorder BufferRef => { s with scratch := s.scratch ++ [t] }) :=
    fun _ hs => hs
  exact hmodify.bind fun _ => (keeps_request (Recorder.adds_fill t _) rfl .fill).bind fun _ => Keeps.pure t

theorem keeps_handle (name : String) : Keeps (Laid g) (handle name : SessionM Recorder BufferRef BufferRef) := by
  intro s hs
  rw [handle]
  cases s.bindings.find? name <;> exact hs

/-! ## Operations -/

/-- looking up operands allocates nothing but literals -/
def lookingUp (g : Graph) : Collection (supply : Supply (SessionM Recorder BufferRef) BufferRef) where
  Yields x _ := Keeps (Laid g) x
  pure a _ _ := Keeps.pure a
  throw _ _ := Keeps.throw _
  bind := Keeps.bind
  pair _ _ hx hy _ := hx.bind fun _ => hy.bind fun _ => Keeps.pure _
  named := keeps_handle
  literal := keeps_literal

theorem keeps_issue (i : Instruction BufferRef) : Keeps (Laid g) (issue i) := by
  cases i with
  | idle => exact Keeps.pure ()
  | fill t p => exact keeps_request (Recorder.adds_fill t p) rfl .fill
  | copy x y => exact keeps_request (Recorder.adds_copy x y) rfl .copy
  | compute name k => exact keeps_request (Recorder.adds_compute k) rfl _

theorem keeps_decided {α : Type} (x : Except RunError α) :
    Keeps (Laid g) (decided x : SessionM Recorder BufferRef α) := by
  cases x with
  | ok a => exact Keeps.pure a
  | error e => exact Keeps.throw e

/-- an operation allocates nothing but literals -/
theorem keeps_perform (o : Operator) (op : Operation) :
    Keeps (Laid g) (perform o op : SessionM Recorder BufferRef Unit) := by
  have hdispatch : Keeps (Laid g) (dispatch o op : SessionM Recorder BufferRef Unit) :=
    (keeps_decided _).bind fun _ => ((lookingUp g).fillSlots op o.signature).bind fun _ =>
      (keeps_decided _).bind keeps_issue
  have hrelease : Keeps (Laid g) (releaseScratch : SessionM Recorder BufferRef Unit) := fun s hs =>
    keeps_releaseAll s.scratch { s with scratch := [] } hs
  unfold perform
  split
  · exact hdispatch.both hrelease
  · exact Keeps.throw _

/-! ## Preparing -/

/-- a tensor of the graph is allocated with its own shape -/
theorem keeps_bindTensor {t : Tensor} (ht : g.Declares t.shape) :
    Keeps (Laid g) (bindTensor t : SessionM Recorder BufferRef Unit) := by
  intro s hs
  have hallocate := keeps_allocate t.kind ht s hs
  rw [reached_invoke] at hallocate
  rcases bindTensor_cases t s with ⟨-, h⟩ | ⟨-, -, h⟩ | ⟨-, -, ⟨why, r, hal, h⟩ | ⟨u, r, hal, h⟩⟩ <;> rw [h]
  · exact hs
  · exact hs
  · rwa [hal] at hallocate
  · rwa [hal] at hallocate

theorem keeps_store (t : Tensor) : Keeps (Laid g) (store t : SessionM Recorder BufferRef Unit) := by
  unfold store
  split
  · exact Keeps.throw _
  · exact (keeps_handle _).bind fun h => keeps_request (Recorder.adds_fill h _) rfl .fill

theorem keeps_prepareAll (options : RunOptions) (g : Graph) :
    Keeps (Laid g) (prepareAll options g : SessionM Recorder BufferRef Unit) := by
  unfold prepareAll
  split
  · exact keeps_materialize_of_mem
      (fun e he => keeps_bindTensor (Or.inr ⟨e.2, List.mem_map_of_mem he, rfl⟩)) fun e _ => keeps_store e.2
  · exact Keeps.pure ()

end Laid

/-! ## Main result -/

section

variable {failOn : Option String} {g : Graph}

theorem laid_fresh (failOn : Option String) (g : Graph) : Laid g (fresh failOn) := nofun

/-- an operand that is found is a literal, or was allocated by the run -/
theorem declares_of_found {index : Nat} {op : Operation} {s : Session Recorder BufferRef} {slots : List Slot}
    {xs : Operands (Operand BufferRef) slots} {ls : List Literal} (hreaches : Reaches default g (fresh failOn) index s)
    (hfound : (Lookup.supply s.bindings.find?).fillSlots op slots [] = .ok xs ls) {x : Operand BufferRef}
    (hx : x ∈ Operands.toList slots xs) : g.Declares (Handle.shape x) := by
  have hlaid : Laid g s :=
    kept_of_reaches (Laid.keeps_prepareAll default g) Laid.keeps_perform hreaches (laid_fresh failOn g)
  have hrest : AtRest Recorder.filing s := kept_of_reaches ((invariant_atRest _).prepareAll default g)
    (invariant_atRest _).perform hreaches (atRest_start (filed_fresh failOn))
  have hfiled : Filed s.held s.engine := hrest.safe
  have hall := ((Lookup.finding s.bindings.find?).fillSlots op slots []).2
  rw [hfound] at hall
  cases x with
  | literal number l => exact Or.inl rfl
  | bound t =>
    obtain ⟨name, hname⟩ := hall _ hx
    have hheld : t ∈ s.held := List.mem_append_left _ (NameMap.mem_values_of_find? hname)
    exact hlaid _ (hfiled.logged t hheld) t.shape rfl

/-- **Shapes of a run.** Whatever fails, a run computes with the shapes that its graph declares and with no others. -/
theorem declares_of_measures {shape : List Nat} (h : Measures failOn g shape) : g.Declares shape := by
  cases h with
  | @allocated clock id kind _ h =>
    exact keeps_runGraph (Laid.keeps_prepareAll default g) Laid.keeps_perform clock _ (laid_fresh failOn g) _ h shape rfl
  | found hop hreaches hnamed hfound hx => exact declares_of_found hreaches hfound hx

end

end Session

end TensorGraph
