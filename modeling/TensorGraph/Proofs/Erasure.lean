/-
Seeing one engine as another.

Model: an `EngineMap` sends the states and the handles of one engine to those of another, so that every primitive does
the same and says the same on both sides. A session only hands handles back to the engine that made them, so it cannot
tell the two apart either.

Main results: `agrees_take`, every step does the same on both sides and gives the same answer or the same fault;
`map_after`, so do whole histories.
-/
import TensorGraph.Proofs.Invariant
import TensorGraph.Proofs.Names
import TensorGraph.Proofs.Supply

namespace TensorGraph

/-! ## Model -/

/-- a way to see an engine as another one that does the same -/
structure EngineMap (σ τ σ' τ' : Type) [Engine σ τ] [Engine σ' τ'] where
  state : σ → σ'
  handle : τ → τ'
  allocate : ∀ kind shape e, mapResult handle state ((Engine.allocate kind shape : EStateM String σ τ) e) =
    (Engine.allocate kind shape : EStateM String σ' τ') (state e)
  release : ∀ t e, mapResult id state ((Engine.release t : EStateM String σ Unit) e) =
    (Engine.release (handle t) : EStateM String σ' Unit) (state e)
  fill : ∀ t p e, mapResult id state ((Engine.fill t p : EStateM String σ Unit) e) =
    (Engine.fill (handle t) p : EStateM String σ' Unit) (state e)
  read : ∀ t e, mapResult id state ((Engine.read t : EStateM String σ Payload) e) =
    (Engine.read (handle t) : EStateM String σ' Payload) (state e)
  copy : ∀ x y e, mapResult id state ((Engine.copy x y : EStateM String σ Unit) e) =
    (Engine.copy (handle x) (handle y) : EStateM String σ' Unit) (state e)
  compute : ∀ k e, mapResult id state ((Engine.compute k : EStateM String σ Unit) e) =
    (Engine.compute (k.map handle) : EStateM String σ' Unit) (state e)

namespace Session

variable {σ τ σ' τ' α β α' β' γ γ' : Type} [Engine σ τ] [Engine σ' τ']

/-- a session seen through its engine -/
def map (M : EngineMap σ τ σ' τ') (s : Session σ τ) : Session σ' τ' :=
  ⟨M.state s.engine, s.bindings.map M.handle, s.reserved, s.scratch.map M.handle, s.requests⟩

/-- two steps that do the same and say the same, one on either side -/
def Agrees (M : EngineMap σ τ σ' τ') (f : α → α') (x : SessionM σ τ α) (x' : SessionM σ' τ' α') : Prop :=
  ∀ s, mapResult f (map M) (x s) = x' (map M s)

namespace Agrees

variable {M : EngineMap σ τ σ' τ'} {f : α → α'} {g : β → β'}

theorem pure (a : α) : Agrees M f (pure a) (pure (f a)) := fun _ => rfl

theorem throw (e : RunError) : Agrees M f (throw e) (throw e) := fun _ => rfl

theorem bind {x : SessionM σ τ α} {x' : SessionM σ' τ' α'} {k : α → SessionM σ τ β} {k' : α' → SessionM σ' τ' β'}
    (hx : Agrees M f x x') (hk : ∀ a, Agrees M g (k a) (k' (f a))) : Agrees M g (x >>= k) (x' >>= k') := by
  intro s
  have h := hx s
  rw [bind_apply, bind_apply, ← h]
  cases x s with
  | ok a s₁ => exact hk a s₁
  | error e s₁ => rfl

theorem both {x y : SessionM σ τ Unit} {x' y' : SessionM σ' τ' Unit} (hx : Agrees M id x x') (hy : Agrees M id y y') :
    Agrees M id (both x y) (both x' y') := by
  intro s
  have h := hx s
  unfold Session.both
  rw [← h]
  cases x s with
  | ok a s₁ => exact hy s₁
  | error e s₁ =>
    dsimp only [mapResult_error]
    rw [← hy s₁]
    cases y s₁ <;> rfl

theorem invoke {p : Primitive} {act : EStateM String σ α} {act' : EStateM String σ' α'}
    (h : ∀ e, mapResult f M.state (act e) = act' (M.state e)) : Agrees M f (invoke p act) (invoke p act') := by
  intro s
  unfold Session.invoke
  rw [show (map M s).engine = M.state s.engine from rfl, ← h s.engine]
  cases act s.engine <;> rfl

end Agrees

/-! ## Requests and names -/

variable (M : EngineMap σ τ σ' τ')

theorem agrees_releaseAll (ts : List τ) : Agrees M id (releaseAll ts) (releaseAll (ts.map M.handle)) := by
  induction ts with
  | nil => exact Agrees.pure ()
  | cons t rest ih => exact (Agrees.invoke (M.release t)).both ih

theorem agrees_handle (name : String) : Agrees M M.handle (handle name) (handle name) := by
  intro s
  unfold handle
  rw [show (map M s).bindings.find? name = (s.bindings.find? name).map M.handle from NameMap.find?_map ..]
  cases s.bindings.find? name <;> rfl

theorem agrees_bindTensor (t : Tensor) : Agrees M id (bindTensor t) (bindTensor t) := by
  intro s
  unfold bindTensor
  have htaken : (map M s).isTaken t.name = s.isTaken t.name := by
    simp [isTaken, map]
  rw [htaken]
  split_ifs
  · rfl
  · rfl
  · have h := Agrees.invoke (p := .allocate) (M.allocate t.kind t.shape) s
    rw [← h]
    cases Session.invoke .allocate (Engine.allocate t.kind t.shape) s with
    | error e s₁ => rfl
    | ok h s₁ =>
      dsimp only [mapResult_ok]
      unfold map
      rw [NameMap.map_insert]

theorem agrees_store (t : Tensor) : Agrees M id (store t) (store t) := by
  unfold store
  cases t.data with
  | none => exact Agrees.throw _
  | some p => exact (agrees_handle M t.name).bind fun h => Agrees.invoke (M.fill h p)

theorem agrees_load (t : Tensor) : Agrees M id (load t) (load t) :=
  (agrees_handle M t.name).bind fun h => (Agrees.invoke (M.read h)).bind fun _ => Agrees.pure _

theorem agrees_clear : Agrees M id clear clear := by
  intro s
  unfold clear
  rw [agrees_releaseAll M]
  simp [map]

theorem agrees_literal (l : Literal) : Agrees M M.handle (literal l) (literal l) := by
  refine Agrees.bind (Agrees.invoke (M.allocate l.kind [])) fun t => ?_
  refine Agrees.bind (f := id) (fun s => ?_) fun _ =>
    Agrees.bind (Agrees.invoke (M.fill t l.toPayload)) fun _ => Agrees.pure t
  simp [map]

theorem agrees_releaseScratch : Agrees M id releaseScratch releaseScratch := by
  intro s
  unfold releaseScratch
  rw [agrees_releaseAll M]
  rfl

/-! ## Operations -/

/-- looking up operands on either side -/
def translation : Translation (supply : Supply (SessionM σ τ) τ) (supply : Supply (SessionM σ' τ') τ') M.handle where
  Rel f x x' := Agrees M f x x'
  pure _ a := Agrees.pure a
  throw _ _ _ := Agrees.throw _
  bind := Agrees.bind
  named := agrees_handle M
  literal := agrees_literal M

theorem agrees_issue (i : Instruction τ) : Agrees M id (issue i) (issue (i.map M.handle)) := by
  cases i with
  | idle => exact Agrees.pure _
  | fill t p => exact Agrees.invoke (M.fill t p)
  | copy x y => exact Agrees.invoke (M.copy x y)
  | compute name k =>
    exact Agrees.invoke (M.compute k)

theorem agrees_decided (f : α → α') (x : Except RunError α) : Agrees M f (decided x) (decided (x.map f)) := by
  cases x with
  | error e => exact Agrees.throw _
  | ok a => exact Agrees.pure _

variable [Handle τ] [Handle τ'] {M}

theorem agrees_dispatch (hM : SameView M.handle) (o : Operator) (op : Operation) :
    Agrees M id (dispatch o op) (dispatch o op) := by
  have hpre := agrees_decided M (id : Unit → Unit) (o.precheck op)
  rw [show (o.precheck op).map id = o.precheck op by cases o.precheck op <;> rfl] at hpre
  refine hpre.bind fun _ => Agrees.bind ((translation M).fillSlots op o.signature) fun xs => ?_
  rw [plan_map hM]
  exact (agrees_decided M _ (o.plan op xs)).bind fun i => agrees_issue M i

theorem agrees_perform (hM : SameView M.handle) (o : Operator) (op : Operation) :
    Agrees M id (perform o op) (perform o op) := by
  unfold perform
  split
  · exact (agrees_dispatch hM o op).both (agrees_releaseScratch M)
  · exact Agrees.throw _

theorem agrees_performNamed (hM : SameView M.handle) (op : Operation) :
    Agrees M id (performNamed op) (performNamed op) := by
  unfold performNamed
  split
  · exact agrees_perform hM _ op
  · exact Agrees.throw _

/-! ## Runs -/

omit [Handle τ] [Handle τ'] in
theorem agrees_prepare (key : String) (t : Tensor) : Agrees M id (prepare key t) (prepare key t) := by
  intro s
  unfold prepare
  have hbound : (map M s).isBound key = s.isBound key := by
    simp [isBound, map]
  rw [hbound]
  split
  · rfl
  · refine Agrees.bind (agrees_bindTensor M t) (fun _ => ?_) s
    split
    · exact agrees_store M t
    · exact Agrees.pure _

omit [Handle τ] [Handle τ'] in
theorem agrees_materialize (entries : List (String × Tensor)) :
    Agrees M id (materialize entries) (materialize entries) := by
  induction entries with
  | nil => exact Agrees.pure _
  | cons e rest ih => exact (agrees_prepare e.1 e.2).bind fun _ => ih

theorem agrees_runOperation (hM : SameView M.handle) (index : Nat) (op : Operation) :
    Agrees M id (runOperation index op) (runOperation index op) := by
  intro s
  unfold runOperation
  rw [← agrees_performNamed hM op s]
  cases performNamed op s <;> rfl

theorem agrees_runOperations (hM : SameView M.handle) (options : RunOptions) (clock : Clock) (index : Nat)
    (figures : RunStatistics) (ops : List Operation) :
    Agrees M id (runOperations options clock index figures ops) (runOperations options clock index figures ops) := by
  induction ops generalizing index figures with
  | nil => exact Agrees.pure _
  | cons op rest ih => exact (agrees_runOperation hM index op).bind fun _ => ih _ _

theorem agrees_runGraph (hM : SameView M.handle) (options : RunOptions) (clock : Clock) (g : Graph) :
    Agrees M id (runGraph options clock g) (runGraph options clock g) := by
  have hprep : Agrees M id (prepareAll options g) (prepareAll options g) := by
    unfold prepareAll
    split
    · exact agrees_materialize g.tensors.entries
    · exact Agrees.pure _
  intro s
  rw [runGraph_apply, runGraph_apply, ← hprep s]
  cases prepareAll options g s with
  | error e s₁ => rfl
  | ok u s₁ =>
    dsimp only [mapResult_ok, id_eq]
    have hops := agrees_runOperations hM options clock 0 ⟨0, 0, 0, .empty⟩ g.operations s₁
    rw [← hops, reached_mapResult]
    cases runOperations options clock 0 ⟨0, 0, 0, .empty⟩ g.operations s₁ <;> rfl

/-! ## Steps -/

/-- **No step tells the two engines apart.** Every step of a session does the same on both sides, and gives the same
answer or the same fault. -/
theorem agrees_take (hM : SameView M.handle) (step : Step) : Agrees M id (take step) (take step) := by
  cases step with
  | create t => exact (agrees_bindTensor M t).bind fun _ => Agrees.pure _
  | write t => exact (agrees_store M t).bind fun _ => Agrees.pure _
  | read t => exact (agrees_load M t).bind fun _ => Agrees.pure _
  | perform o op => exact (agrees_perform hM o op).bind fun _ => Agrees.pure _
  | run options clock g => exact (agrees_runGraph hM options clock g).bind fun _ => Agrees.pure _
  | clear => exact (agrees_clear M).bind fun _ => Agrees.pure _

theorem map_next (hM : SameView M.handle) (s : Session σ τ) (step : Step) :
    map M (s.next step) = (map M s).next step := by
  rw [next_eq_reached, next_eq_reached, ← agrees_take hM step s, reached_mapResult]

theorem map_after (hM : SameView M.handle) (s : Session σ τ) (history : List Step) :
    map M (s.after history) = (map M s).after history := by
  induction history generalizing s with
  | nil => rfl
  | cons step rest ih =>
    rw [after, after, List.foldl_cons, List.foldl_cons, ← map_next hM]
    exact ih _

end Session

end TensorGraph
