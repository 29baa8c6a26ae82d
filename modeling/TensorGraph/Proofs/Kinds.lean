/-
The open kind gets no further than the entrance.

Model: nothing can be stored as the open kind, so tensors and operations of it are refused. `RunError.IsOrdinary` are
the faults that are left to an operation of a concrete kind. A fault that `KeepsToKinds` does not say that a buffer of
the open kind was asked for: if it is about allocating, allocating always fails. Sessions are those on a recorder,
whatever their history and whichever primitive always fails.

Main results:
- `ordinary_perform`: an operation of a concrete kind does not fail over a kind, nor over a name that has a tensor;
- `KeepsToKinds.take`: whatever is done with a session, no buffer of the open kind is asked for;
- `open_kind_is_refused_at_once`.
-/
import TensorGraph.Proofs.Sufficiency

namespace TensorGraph

/-! ## Model -/

namespace RunError

/-- faults of an operation that has got as far as looking up its operands -/
def IsOrdinary : RunError → Prop
  | .malformedOperand .. | .unsupportedOperation .. | .unboundTensor _ | .engine .. => True
  | _ => False

/-- a fault that is not about allocating, or is because allocating always fails -/
def KeepsToKinds (e : RunError) : Prop :=
  ∀ why, e.root = .engine .allocate why → why = (Fault.injected .allocate).message

namespace KeepsToKinds

variable {e : RunError}

theorem of_complaint (h : e.IsComplaint) : e.KeepsToKinds := by
  intro why hroot
  cases e with
  | malformedOperand operation operand reason => cases hroot
  | unsupportedOperation operation reason => cases hroot
  | unsupportedKind subject kind => cases hroot
  | _ => cases h

theorem duplicateTensor (name : String) : (duplicateTensor name).KeepsToKinds := nofun

theorem unboundTensor (name : String) : (unboundTensor name).KeepsToKinds := nofun

theorem operation {index : Nat} {name : String} (h : e.KeepsToKinds) : (operation index name e).KeepsToKinds := h

theorem of_primitive {p : Primitive} (hp : p ≠ .allocate) (why : String) : (engine p why).KeepsToKinds := by
  intro why' h
  cases h
  exact absurd rfl hp

theorem injected (p : Primitive) : (engine p (Fault.injected p).message).KeepsToKinds := by
  intro why h
  cases h
  rfl

end KeepsToKinds

end RunError

/-- an action that asks for buffers of concrete kinds only, whatever session it is taken in -/
def Session.KeepsToKinds {α : Type} (act : SessionM Recorder BufferRef α) : Prop :=
  ∀ s e, fault? (act s) = some e → e.KeepsToKinds

/-! ## Operations of a concrete kind -/

namespace Session

section

variable {failOn : Option String} {s : Session Recorder BufferRef} {o : Operator} {op : Operation}

/-- nothing of the open kind is bound, since what is bound has contents -/
theorem kind_ne_generic_of_bound (h : Rests failOn s) {name : String} {t : BufferRef}
    (ht : s.bindings.find? name = some t) : t.kind ≠ .generic := by
  obtain ⟨p, -, hkind, -⟩ := h.live ht
  rw [← hkind]
  cases p <;> nofun

/-- the operands that are found are of concrete kinds, and so are the tensors of literals -/
theorem kind_ne_generic_of_found (h : Rests failOn s) {slots : List Slot} {xs : Operands (Operand BufferRef) slots}
    {ls : List Literal} (hfound : (Lookup.supply s.bindings.find?).fillSlots op slots [] = .ok xs ls) :
    ∀ x ∈ Operands.toList slots xs, Handle.kind x ≠ .generic := by
  intro x hx
  have hall := ((Lookup.finding s.bindings.find?).fillSlots op slots []).2
  rw [hfound] at hall
  cases x with
  | bound t =>
    obtain ⟨name, hname⟩ := hall _ hx
    exact kind_ne_generic_of_bound h hname
  | literal number l => exact l.kind_ne_generic

theorem ordinary_dispatch (h : Rests failOn s) (hconcrete : op.dtype ≠ .generic) {e : RunError}
    (he : fault? (dispatch o op s) = some e) : e.IsOrdinary := by
  rcases fault_of_dispatch he with hdecision | ⟨p, -, rfl⟩ | ⟨i, hi, hissued⟩
  · rcases complaint_or_missing hdecision with hcomplaint | ⟨name, -, rfl⟩
    · -- no kind is there to complain about
      have hnone : ¬ (op.dtype = .generic ∨ ∃ name t, s.bindings.find? name = some t ∧ Handle.kind t = .generic) := by
        rintro (hdtype | ⟨name, t, ht, hkind⟩)
        · exact hconcrete hdtype
        · exact kind_ne_generic_of_bound h ht hkind
      cases e with
      | unsupportedKind subject kind => exact absurd hcomplaint hnone
      | _ => trivial
    · trivial
  · trivial
  · obtain ⟨p, why, -, rfl⟩ := fault_issue hi hissued
    trivial

/-- **Operations of a concrete kind.** They fail over an operand or attribute, over something that is not implemented,
over a name without a tensor, or in the engine. -/
theorem ordinary_perform (h : Rests failOn s) (hconcrete : op.dtype ≠ .generic) {e : RunError}
    (he : fault? (perform o op s) = some e) : e.IsOrdinary := by
  rcases fault_of_perform he with ⟨hgeneric, -⟩ | he | ⟨why, rfl⟩
  · exact absurd hgeneric hconcrete
  · exact ordinary_dispatch h hconcrete he
  · trivial

theorem perform_of_generic (o : Operator) (hgeneric : op.dtype = .generic) (s : Session Recorder BufferRef) :
    perform o op s = .error (.unsupportedKind op.name .generic) s := by
  rw [perform, if_neg (by simp [ElementKind.isConcrete, hgeneric]), hgeneric]
  rfl

end

/-! ## Allocations -/

namespace KeepsToKinds

variable {α β : Type}

theorem pure (a : α) : KeepsToKinds (pure a) := nofun

theorem throw {e : RunError} (he : e.KeepsToKinds) : KeepsToKinds (throw e : SessionM Recorder BufferRef α) := by
  intro s e' h
  cases h
  exact he

theorem bind {x : SessionM Recorder BufferRef α} {k : α → SessionM Recorder BufferRef β} (hx : KeepsToKinds x)
    (hk : ∀ a, KeepsToKinds (k a)) : KeepsToKinds (x >>= k) := by
  intro s e he
  rw [bind_apply] at he
  cases hx' : x s with
  | ok a s₁ =>
    rw [hx'] at he
    exact hk a s₁ e he
  | error e' s₁ =>
    rw [hx'] at he
    cases he
    exact hx s e (congrArg fault? hx')

theorem both {x y : SessionM Recorder BufferRef Unit} (hx : KeepsToKinds x) (hy : KeepsToKinds y) :
    KeepsToKinds (both x y) := by
  intro s e he
  rw [fault?_both, Option.or_eq_some_iff] at he
  rcases he with he | ⟨-, he⟩
  · exact hx s e he
  · exact hy _ e he

/-- a request for anything but a buffer -/
theorem invoke {p : Primitive} (hp : p ≠ .allocate) (act : EStateM String Recorder α) :
    KeepsToKinds (invoke p act : SessionM Recorder BufferRef α) := by
  intro s e he
  rw [fault?_invoke, Option.map_eq_some_iff] at he
  obtain ⟨why, -, rfl⟩ := he
  exact .of_primitive hp why

theorem handle (name : String) : KeepsToKinds (handle name : SessionM Recorder BufferRef BufferRef) := by
  intro s e he
  rw [Session.handle] at he
  cases ht : s.bindings.find? name with
  | none =>
    rw [ht] at he
    cases he
    exact .unboundTensor name
  | some t =>
    rw [ht] at he
    cases he

/-- a tensor of the open kind is refused before it is allocated -/
theorem bindTensor (t : Tensor) : KeepsToKinds (bindTensor t : SessionM Recorder BufferRef Unit) := by
  intro s e he
  rcases bindTensor_cases t s with ⟨-, h⟩ | ⟨-, -, h⟩ | ⟨-, hkind, ⟨why, r, hal, h⟩ | ⟨u, r, -, h⟩⟩ <;>
    rw [h] at he <;> cases he
  · exact .duplicateTensor _
  · exact .of_complaint trivial
  · rw [Recorder.engine_allocate, Recorder.inWords_apply] at hal
    rcases Recorder.allocate_cases hkind t.shape s.engine with ⟨-, ha⟩ | ⟨-, zeros, ha⟩ <;> rw [ha] at hal <;> cases hal
    exact .injected .allocate

theorem store (t : Tensor) : KeepsToKinds (store t : SessionM Recorder BufferRef Unit) := by
  unfold Session.store
  split
  · exact throw (.of_complaint trivial)
  · exact (handle _).bind fun _ => invoke (by decide) _

theorem load (t : Tensor) : KeepsToKinds (load t : SessionM Recorder BufferRef Tensor) :=
  (handle _).bind fun _ => (invoke (by decide) _).bind fun _ => pure _

theorem releaseAll (ts : List BufferRef) : KeepsToKinds (releaseAll ts : SessionM Recorder BufferRef Unit) := by
  intro s e he
  obtain ⟨why, rfl⟩ := fault_releaseAll he
  exact .of_primitive (by decide) why

theorem clear : KeepsToKinds (clear : SessionM Recorder BufferRef Unit) := fun _ => releaseAll _ _

/-- the tensors of literals are of concrete kinds, so storing them only meets the primitive that always fails -/
theorem dispatch (o : Operator) (op : Operation) : KeepsToKinds (dispatch o op : SessionM Recorder BufferRef Unit) := by
  intro s e he
  rcases fault_of_dispatch he with hdecision | ⟨p, -, rfl⟩ | ⟨i, hi, hissued⟩
  · rcases fault_of_decision hdecision with hcomplaint | ⟨name, -, rfl⟩
    · exact .of_complaint hcomplaint
    · exact .unboundTensor name
  · exact .injected p
  · obtain ⟨p, why, hp, rfl⟩ := fault_issue hi hissued
    exact .of_primitive hp why

theorem perform (o : Operator) (op : Operation) : KeepsToKinds (perform o op : SessionM Recorder BufferRef Unit) := by
  unfold Session.perform
  split
  · exact (dispatch o op).both fun _ => releaseAll _ _
  · exact throw (.of_complaint trivial)

theorem runOperation (index : Nat) (op : Operation) :
    KeepsToKinds (runOperation index op : SessionM Recorder BufferRef Unit) := by
  intro s e he
  have hop : KeepsToKinds (performNamed op : SessionM Recorder BufferRef Unit) := by
    unfold performNamed
    split
    · exact perform _ op
    · exact throw nofun
  unfold Session.runOperation at he
  cases hp : performNamed op s with
  | ok u s₁ => rw [hp] at he; cases he
  | error e' s₁ =>
    rw [hp] at he
    cases he
    exact (hop s e' (congrArg fault? hp)).operation

theorem runOperations (options : RunOptions) (clock : Clock) (index : Nat) (figures : RunStatistics)
    (ops : List Operation) : KeepsToKinds (runOperations options clock index figures ops :
      SessionM Recorder BufferRef RunStatistics) := by
  induction ops generalizing index figures with
  | nil => exact pure _
  | cons op rest ih => exact (runOperation index op).bind fun _ => ih _ _

theorem materialize (entries : List (String × Tensor)) :
    KeepsToKinds (materialize entries : SessionM Recorder BufferRef Unit) := by
  induction entries with
  | nil => exact pure ()
  | cons entry rest ih =>
    refine bind (fun s e he => ?_) fun _ => ih
    unfold prepare at he
    split at he
    · cases he
    · refine (bindTensor entry.2).bind (fun _ => ?_) s e he
      split
      · exact store entry.2
      · exact pure ()

theorem runGraph (options : RunOptions) (clock : Clock) (g : Graph) :
    KeepsToKinds (runGraph options clock g : SessionM Recorder BufferRef RunStatistics) := by
  have hprepare : KeepsToKinds (prepareAll options g : SessionM Recorder BufferRef Unit) := by
    unfold prepareAll
    split
    · exact materialize _
    · exact pure ()
  intro s e he
  rw [runGraph_apply] at he
  cases hp : prepareAll options g s with
  | error e' s₁ =>
    rw [hp] at he
    cases he
    exact hprepare s e (congrArg fault? hp)
  | ok u s₁ =>
    rw [hp] at he
    dsimp only at he
    rw [fault?_mapResult] at he
    exact runOperations options clock 0 _ g.operations s₁ e he

/-- **Requests for buffers.** Whatever is done with a session, and whatever happened to it before, no buffer of the
open kind is asked for. -/
theorem take (step : Step) : KeepsToKinds (take step : SessionM Recorder BufferRef Answer) := by
  cases step with
  | create t => exact (bindTensor t).bind fun _ => pure _
  | write t => exact (store t).bind fun _ => pure _
  | read t => exact (load t).bind fun _ => pure _
  | perform o op => exact (perform o op).bind fun _ => pure _
  | run options clock g => exact (runGraph options clock g).bind fun _ => pure _
  | clear => exact clear.bind fun _ => pure _

end KeepsToKinds

/-! ## The open kind -/

/-- **The open kind.** On a recorder, whichever primitive always fails and whatever happened before: an operation fails
over a kind if and only if its own kind is open, and then before anything else; the operands that an operator finds are
of concrete kinds; what is bound is of concrete kinds; and no step fails because there is nothing to store a buffer of
some kind as. Names that are taken or unknown, and parts of runs and graphs, are no faults of operations. -/
theorem open_kind_is_refused_at_once (failOn : Option String) (history : List Step) :
    let s := (fresh failOn).after history
    (∀ (o : Operator) (op : Operation),
      ((∃ subject kind, fault? (perform o op s) = some (.unsupportedKind subject kind)) ↔ op.dtype = .generic) ∧
      (op.dtype = .generic → perform o op s = .error (.unsupportedKind op.name .generic) s) ∧
      (∀ e, fault? (perform o op s) = some e → (∀ name, e ≠ .duplicateTensor name) ∧
        (∀ name, e ≠ .unknownOperation name) ∧ (∀ index name cause, e ≠ .operation index name cause) ∧
        ∀ cause, e ≠ .graph cause) ∧
      ∀ (xs : Operands (Operand BufferRef) o.signature) (ls : List Literal),
        (Lookup.supply s.bindings.find?).fillSlots op o.signature [] = .ok xs ls →
          ∀ x ∈ Operands.toList o.signature xs, Handle.kind x ≠ .generic) ∧
    (∀ name t, s.bindings.find? name = some t → Handle.kind t ≠ .generic) ∧
    ∀ (step : Step) (e : RunError) (why : String), fault? (take step s) = some e → e.root = .engine .allocate why →
      ∀ kind, why ≠ (Fault.kindless kind).message := by
  intro s
  have hrest : Rests failOn s := after_atRest (Recorder.custody failOn) (coupled_fresh failOn) history
  refine ⟨fun o op => ?_, fun name t ht => kind_ne_generic_of_bound hrest ht, fun step e why he hroot kind hkind => ?_⟩
  · have hrefused : op.dtype = .generic → perform o op s = .error (.unsupportedKind op.name .generic) s :=
      fun hgeneric => perform_of_generic o hgeneric s
    have hordinary {e : RunError} (hconcrete : op.dtype ≠ .generic) (he : fault? (perform o op s) = some e) :
        e.IsOrdinary := ordinary_perform hrest hconcrete he
    refine ⟨⟨fun ⟨subject, kind, he⟩ => ?_, fun h => ⟨op.name, .generic, ?_⟩⟩, hrefused, fun e he => ?_,
      fun xs ls hfound => kind_ne_generic_of_found hrest hfound⟩
    · by_contra hconcrete
      exact hordinary hconcrete he
    · rw [hrefused h]
      rfl
    · by_cases hgeneric : op.dtype = .generic
      · rw [hrefused hgeneric] at he
        cases he
        exact ⟨nofun, nofun, nofun, nofun⟩
      · have h := hordinary hgeneric he
        refine ⟨fun name => ?_, fun name => ?_, fun index name cause => ?_, fun cause => ?_⟩ <;> rintro rfl <;> exact h
  · -- allocating fails because it always does, and that is said in other words
    have hinjected := KeepsToKinds.take step s e he why hroot
    have hhead := (Fault.kindless kind).head?_message
    rw [← hkind, hinjected, Fault.head?_message] at hhead
    cases hhead

end Session

end TensorGraph
