/-
Requests are counted when they are made, and logged when they go well.

Model: `Entered n` says that the log of a recorder only grew, and that the session counted what was added to it and `n`
requests more. An action is `Truthful` in a state if these are the request that its fault is about, or none: no action
goes on after a request that failed. Releasing does, so an action that ends with releasing is truthful only where
that goes well.

Main result: `requests_are_accounted_for`.
-/
import TensorGraph.Proofs.Agreement
import TensorGraph.Proofs.Figures
import TensorGraph.Proofs.Requests

namespace TensorGraph

/-! ## Model -/

/-- whether a fault is one of the engine, behind any number of failing operations -/
def RunError.isOfEngine (e : RunError) : Bool :=
  match e.root with
  | .engine .. => true
  | _ => false

theorem RunError.IsComplaint.not_isOfEngine {e : RunError} (h : e.IsComplaint) : e.isOfEngine = false := by
  cases e <;> first | rfl | cases h

/-- a primitive that leaves no trace when it fails, and one in the log when it goes well -/
structure Recorder.Logs {α : Type} (act : EStateM Fault Recorder α) : Prop where
  atomic : Atomic act
  ok : ∀ {r r' : Recorder} {a : α}, act r = .ok a r' → ∃ c, r'.log.toList = r.log.toList ++ [c]

theorem Recorder.Adds.logs {α : Type} {c : Call} {act : EStateM Fault Recorder α} (h : Adds c act) : Logs act :=
  ⟨h.atomic, fun hact => ⟨c, (h.ok hact).1⟩⟩

theorem Recorder.logs_allocate (kind : ElementKind) (shape : List Nat) : Logs (allocate kind shape) where
  atomic := atomic_allocate kind shape
  ok h := by
    obtain ⟨-, -, zeros, -, -, rfl⟩ := allocate_ok h
    exact ⟨_, log_adding ..⟩

namespace Session

section

variable {σ τ α : Type}

/-- one for a fault of the engine, which is about one request -/
def failedRequests (r : EStateM.Result RunError (Session σ τ) α) : Nat :=
  if (fault? r).any RunError.isOfEngine then 1 else 0

theorem failedRequests_ok {r : EStateM.Result RunError (Session σ τ) α} (h : fault? r = none) :
    failedRequests r = 0 := by
  rw [failedRequests, h]
  rfl

theorem failedRequests_congr {β : Type} {r : EStateM.Result RunError (Session σ τ) α}
    {r' : EStateM.Result RunError (Session σ τ) β} (h : fault? r = fault? r') :
    failedRequests r = failedRequests r' := by
  rw [failedRequests, h]
  rfl

/-- how many steps of a history ended with a fault of the engine -/
def failedSteps [Engine σ τ] [Handle τ] (s : Session σ τ) : List Step → Nat
  | [] => 0
  | step :: rest => failedRequests (take step s) + failedSteps (s.next step) rest

end

variable {α β : Type} {s : Session Recorder BufferRef}

/-- a log that only grew, and a count of requests that grew by as much and by `n` -/
def Entered (n : Nat) (s s' : Session Recorder BufferRef) : Prop :=
  ∃ calls, s'.engine.log.toList = s.engine.log.toList ++ calls ∧ s'.requests = s.requests + calls.length + n

theorem Entered.refl (s : Session Recorder BufferRef) : Entered 0 s s := ⟨[], (List.append_nil _).symm, rfl⟩

theorem Entered.trans {n m : Nat} {s t u : Session Recorder BufferRef} (h₁ : Entered n s t) (h₂ : Entered m t u) :
    Entered (n + m) s u := by
  obtain ⟨calls, hlog, hrequests⟩ := h₁
  obtain ⟨calls', hlog', hrequests'⟩ := h₂
  refine ⟨calls ++ calls', by rw [hlog', hlog, List.append_assoc], ?_⟩
  rw [hrequests', hrequests, List.length_append]
  omega

/-- an action that counts, from a state, what it enters in the log and the request that its fault is about -/
def Truthful (act : SessionM Recorder BufferRef α) (s : Session Recorder BufferRef) : Prop :=
  Entered (failedRequests (act s)) s (reached (act s))

namespace Truthful

/-! ## Sequences -/

theorem pure (a : α) (s : Session Recorder BufferRef) : Truthful (pure a) s := Entered.refl s

theorem of_error {act : SessionM Recorder BufferRef α} {e : RunError} (h : act s = .error e s)
    (he : e.isOfEngine = false) : Truthful act s := by
  have hnone : failedRequests (act s) = 0 := by simp [failedRequests, h, he]
  rw [Truthful, hnone, h]
  exact Entered.refl s

theorem throw {e : RunError} (he : e.isOfEngine = false) (s : Session Recorder BufferRef) :
    Truthful (throw e : SessionM Recorder BufferRef α) s := of_error rfl he

theorem bind {x : SessionM Recorder BufferRef α} {k : α → SessionM Recorder BufferRef β} (hx : Truthful x s)
    (hk : ∀ a s₁, x s = .ok a s₁ → Truthful (k a) s₁) : Truthful (x >>= k) s := by
  unfold Truthful at hx ⊢
  rw [bind_apply]
  cases hx' : x s with
  | error e s₁ =>
    rw [hx'] at hx
    exact hx
  | ok a s₁ =>
    rw [hx'] at hx
    have h := hx.trans (hk a s₁ hx')
    rwa [failedRequests_ok rfl, Nat.zero_add] at h

/-- a second step that goes well adds no fault -/
theorem both {x y : SessionM Recorder BufferRef Unit} (hx : Truthful x s) (hy : Truthful y (reached (x s)))
    (hok : fault? (y (reached (x s))) = none) : Truthful (both x y) s := by
  have hfault : fault? (Session.both x y s) = fault? (x s) := by rw [fault?_both, hok, Option.or_none]
  have h := Entered.trans hx hy
  rw [failedRequests_ok hok, Nat.add_zero] at h
  rwa [Truthful, reached_both, failedRequests_congr hfault]

/-- what an action answers does not matter -/
theorem mapResult {act : SessionM Recorder BufferRef α} {act' : SessionM Recorder BufferRef β} {f : α → β}
    (heq : act' s = mapResult f id (act s)) : Truthful act' s ↔ Truthful act s := by
  unfold Truthful
  rw [heq, reached_mapResult, failedRequests_congr (fault?_mapResult f id (act s))]
  rfl

/-! ## Requests -/

theorem invoke {act : EStateM Fault Recorder α} (h : Recorder.Logs act) (p : Primitive)
    (s : Session Recorder BufferRef) : Truthful (invoke p (Recorder.inWords act)) s := by
  unfold Truthful failedRequests
  rw [reached_invoke, fault?_invoke, Recorder.inWords_apply]
  cases hact : act s.engine with
  | error f r =>
    obtain rfl := h.atomic _ f r hact
    exact ⟨[], (List.append_nil _).symm, rfl⟩
  | ok a r =>
    obtain ⟨c, hc⟩ := h.ok hact
    exact ⟨[c], hc, rfl⟩

theorem handle (name : String) (s : Session Recorder BufferRef) : Truthful (handle name) s := by
  cases hf : s.bindings.find? name with
  | none => exact of_error (by rw [Session.handle, hf]) rfl
  | some t =>
    have hok : Session.handle name s = .ok t s := by rw [Session.handle, hf]
    rw [Truthful, hok]
    exact Entered.refl s

theorem allocate (kind : ElementKind) (shape : List Nat) (s : Session Recorder BufferRef) :
    Truthful (Session.invoke .allocate (Engine.allocate kind shape)) s :=
  invoke (Recorder.logs_allocate kind shape) .allocate s

theorem fill (t : BufferRef) (p : Payload) (s : Session Recorder BufferRef) :
    Truthful (Session.invoke .fill (Engine.fill t p)) s := invoke (Recorder.adds_fill t p).logs .fill s

theorem release (t : BufferRef) (s : Session Recorder BufferRef) :
    Truthful (Session.invoke .release (Engine.release t)) s := invoke (Recorder.adds_release t).logs .release s

theorem literal (l : Literal) (s : Session Recorder BufferRef) : Truthful (literal l) s := by
  refine (allocate l.kind [] s).bind fun t s₁ _ => ?_
  have hkeep : Truthful (modify fun s : Session Recorder BufferRef => { s with scratch := s.scratch ++ [t] }) s₁ :=
    Entered.refl s₁
  exact hkeep.bind fun _ s₂ _ => (fill t l.toPayload s₂).bind fun _ s₃ _ => pure t s₃

/-- looking up operands is truthful, wherever it starts -/
def lookingUp : Collection (supply : Supply (SessionM Recorder BufferRef) BufferRef) where
  Yields x _ := ∀ s, Truthful x s
  pure a _ _ := pure a
  throw _ h := throw h.isComplaint.not_isOfEngine
  bind hx hk s := (hx s).bind fun a s₁ _ => hk a s₁
  pair _ _ hx hy _ s := (hx s).bind fun _ s₁ _ => (hy s₁).bind fun _ s₂ _ => pure _ s₂
  named := handle
  literal := literal

/-- releasing that goes well adds up; otherwise it may fail more than once -/
theorem releaseAll {ts : List BufferRef} (hok : fault? (releaseAll ts s) = none) : Truthful (releaseAll ts) s := by
  induction ts generalizing s with
  | nil => exact pure () s
  | cons t rest ih =>
    rw [Session.releaseAll, fault?_both, Option.or_eq_none_iff] at hok
    exact (release t s).both (ih hok.2) hok.2

/-! ## Named tensors -/

theorem bindTensor (t : Tensor) (s : Session Recorder BufferRef) : Truthful (bindTensor t) s := by
  have hallocate := allocate t.kind t.shape s
  unfold Truthful failedRequests at hallocate
  rw [reached_invoke, fault?_invoke] at hallocate
  rcases bindTensor_cases t s with ⟨-, h⟩ | ⟨-, -, h⟩ | ⟨-, -, ⟨why, e, hal, h⟩ | ⟨u, e, hal, h⟩⟩
  · exact of_error h rfl
  · exact of_error h rfl
  · rw [hal] at hallocate
    rw [Truthful, h]
    exact hallocate
  · rw [hal] at hallocate
    rw [Truthful, h]
    exact hallocate

theorem store (t : Tensor) (s : Session Recorder BufferRef) : Truthful (store t) s := by
  unfold Session.store
  split
  · exact throw rfl s
  · exact (handle t.name s).bind fun h s₁ _ => fill h _ s₁

theorem load (t : Tensor) (s : Session Recorder BufferRef) : Truthful (load t) s := by
  refine (handle t.name s).bind fun h s₁ _ => ?_
  exact (invoke (Recorder.adds_read h).logs .read s₁).bind fun _ s₂ _ => pure _ s₂

theorem prepare (key : String) (t : Tensor) (s : Session Recorder BufferRef) : Truthful (prepare key t) s := by
  have hnew : Truthful (do Session.bindTensor t; if t.data.isSome then Session.store t) s := by
    refine (bindTensor t s).bind fun _ s₁ _ => ?_
    split
    · exact store t s₁
    · exact pure () s₁
  by_cases hbound : s.isBound key = true
  · have hok : Session.prepare key t s = .ok () s := if_pos hbound
    rw [Truthful, hok]
    exact Entered.refl s
  · have hprepare : Session.prepare key t s = _ := if_neg hbound
    rwa [Truthful, hprepare]

theorem materialize (entries : List (String × Tensor)) (s : Session Recorder BufferRef) :
    Truthful (materialize entries) s := by
  induction entries generalizing s with
  | nil => exact pure () s
  | cons e rest ih => exact (prepare e.1 e.2 s).bind fun _ s₁ _ => ih s₁

theorem prepareAll (options : RunOptions) (g : Graph) (s : Session Recorder BufferRef) :
    Truthful (prepareAll options g) s := by
  unfold Session.prepareAll
  split
  · exact materialize _ s
  · exact pure () s

/-! ## Operations -/

theorem decided {x : Except RunError α} (h : Complains x) (s : Session Recorder BufferRef) :
    Truthful (decided x) s := by
  cases x with
  | ok a => exact pure a s
  | error e => exact throw (RunError.IsComplaint.not_isOfEngine h) s

theorem issue (i : Instruction BufferRef) (s : Session Recorder BufferRef) : Truthful (issue i) s := by
  cases i with
  | idle => exact pure () s
  | fill t p => exact fill t p s
  | copy x y => exact invoke (Recorder.adds_copy x y).logs .copy s
  | compute name k => exact invoke (Recorder.adds_compute k).logs name s

theorem dispatch (o : Operator) (op : Operation) (s : Session Recorder BufferRef) : Truthful (dispatch o op) s :=
  (decided (Operator.complains_precheck o op) s).bind fun _ s₁ _ =>
    (lookingUp.fillSlots op o.signature s₁).bind fun xs s₂ _ =>
      (decided (Operator.complains_plan o op xs) s₂).bind fun i s₃ _ => issue i s₃

theorem perform {o : Operator} {op : Operation}
    (hok : fault? (releaseScratch (reached (Session.dispatch o op s))) = none) : Truthful (perform o op) s := by
  unfold Session.perform
  split
  · exact (dispatch o op s).both (releaseAll hok) hok
  · exact throw rfl s

/-- an operation that goes well released its scratch tensors -/
theorem perform_of_ok {o : Operator} {op : Operation} (hok : fault? (Session.perform o op s) = none) :
    Truthful (Session.perform o op) s := by
  by_cases hkind : op.dtype.isConcrete = true
  · rw [Session.perform, if_pos hkind, fault?_both, Option.or_eq_none_iff] at hok
    exact perform hok.2
  · rw [Session.perform, if_neg hkind] at hok
    cases hok

/-! ## Runs -/

theorem performNamed_of_ok {op : Operation} (hok : fault? (Session.performNamed op s) = none) :
    Truthful (Session.performNamed op) s := by
  unfold Session.performNamed at hok ⊢
  split
  · rename_i r hr
    rw [hr] at hok
    exact perform_of_ok hok
  · exact throw rfl s

/-- the number and the name of an operation do not change what is behind its fault -/
theorem runOperation {index : Nat} {op : Operation} (h : Truthful (performNamed op) s) :
    Truthful (runOperation index op) s := by
  unfold Truthful failedRequests Session.runOperation at *
  cases hop : Session.performNamed op s with
  | ok u s₁ => rwa [hop] at h
  | error e s₁ => rwa [hop] at h

theorem runFrom_of_ok {index : Nat} {ops : List Operation} (hok : fault? (runFrom index ops s) = none) :
    Truthful (runFrom index ops) s := by
  induction ops generalizing index s with
  | nil => exact pure () s
  | cons op rest ih =>
    obtain ⟨s', hrun⟩ := exists_ok_iff.2 hok
    obtain ⟨s₁, hop, hrest⟩ := runFrom_cons_ok hrun
    have hfirst : Truthful (Session.runOperation index op) s :=
      runOperation (performNamed_of_ok (by rw [hop]; rfl))
    refine hfirst.bind fun u s₂ hop' => ih ?_
    rw [Session.runOperation, hop] at hop'
    cases hop'
    rw [hrest]
    rfl

/-- a run only has figures to add to what it does -/
theorem runGraph {options : RunOptions} {clock : Clock} {g : Graph}
    (h : ∀ s₁, Session.prepareAll options g s = .ok () s₁ → Truthful (runFrom 0 g.operations) s₁) :
    Truthful (runGraph options clock g) s := by
  have hphases : Truthful (Session.prepareAll options g >>= fun _ => runFrom 0 g.operations) s :=
    (prepareAll options g s).bind fun _ s₁ hprep => h s₁ hprep
  have herase : (Session.prepareAll options g >>= fun _ => runFrom 0 g.operations) s =
      TensorGraph.mapResult (fun _ => ()) id (Session.runGraph options clock g s) := by
    rw [runGraph_eq, bind_apply]
    cases Session.prepareAll options g s with
    | error e s₁ => rfl
    | ok u s₁ =>
      dsimp only
      cases runFrom 0 g.operations s₁ <;> rfl
  exact (mapResult herase).1 hphases

theorem runGraph_of_ok {options : RunOptions} {clock : Clock} {g : Graph} {figures : RunStatistics}
    {s' : Session Recorder BufferRef} (h : Session.runGraph options clock g s = .ok figures s') :
    Truthful (Session.runGraph options clock g) s := by
  obtain ⟨s₁, hprep, hops, -⟩ := runGraph_ok h
  refine runGraph fun s₂ hprep' => ?_
  rw [hprep] at hprep'
  cases hprep'
  exact runFrom_of_ok (by rw [hops]; rfl)

/-! ## Between two steps -/

section

variable {failOn : Option String} (hne : failOn ≠ some Primitive.release.name)

include hne

theorem performNamed_of_rests (h : Rests failOn s) (op : Operation) : Truthful (performNamed op) s := by
  unfold Session.performNamed
  split
  · exact perform (fault?_releaseScratch h hne _ op)
  · exact throw rfl s

theorem runFrom_of_rests (h : Rests failOn s) (index : Nat) (ops : List Operation) :
    Truthful (runFrom index ops) s := by
  induction ops generalizing index s with
  | nil => exact pure () s
  | cons op rest ih =>
    have hrests := keeps_runOperation (invariant_atRest (Recorder.custody failOn)).perform index op s h
    refine (runOperation (performNamed_of_rests hne h op)).bind fun u s₁ hop => ih ?_ _
    rwa [hop] at hrests

theorem take (h : Rests failOn s) (step : Step) : Truthful (take step) s := by
  cases step with
  | create t => exact (mapResult (take_create t s)).2 (bindTensor t s)
  | write t => exact (mapResult (take_write t s)).2 (store t s)
  | read t => exact (mapResult (take_read t s)).2 (load t s)
  | perform o op => exact (mapResult (take_perform o op s)).2 (perform (fault?_releaseScratch h hne o op))
  | clear =>
    have hclear : Truthful clear s := releaseAll (fault?_clear h hne)
    exact (mapResult (take_clear s)).2 hclear
  | run options clock g =>
    have hrun : Truthful (Session.runGraph options clock g) s := runGraph fun s₁ hprep => by
      have hrests := (invariant_atRest (Recorder.custody failOn)).prepareAll options g s h
      rw [hprep] at hrests
      exact runFrom_of_rests hne hrests 0 g.operations
    exact (mapResult (take_run options clock g s)).2 hrun

/-- every step adds its calls, and its request if that is what failed -/
theorem after (h : Rests failOn s) (history : List Step) :
    Entered (failedSteps s history) s (s.after history) := by
  induction history generalizing s with
  | nil => exact Entered.refl s
  | cons step rest ih =>
    have hstep := take hne h step
    have hrests := (invariant_atRest (Recorder.custody failOn)).take step s h
    unfold Truthful at hstep
    rw [← next_eq_reached] at hstep hrests
    exact hstep.trans (ih hrests)

end

end Truthful

/-- **Requests and runs are accounted for.** Take any session on a recorder, whatever its history and whichever
primitive but releasing always fails: it counted as many requests as the log has calls and as there were steps that
ended with a fault of the engine.

Now run a graph in any session on a recorder. If that goes well, the figures count as many requests as calls were added
to the log, and every operation of the graph. With times, there are figures for the names that occur in the graph and
no other, with the counts of the graph, so the counts add up to the operations that ran; without times there are none,
and leaving them out is all that is different. -/
theorem requests_are_accounted_for (failOn : Option String) (hne : failOn ≠ some Primitive.release.name)
    (history : List Step) :
    ((fresh failOn).after history).requests =
        ((fresh failOn).after history).engine.log.size + failedSteps (fresh failOn) history ∧
      ∀ (options : RunOptions) (clock : Clock) (g : Graph) (s : Session Recorder BufferRef),
        (∀ figures s', runGraph options clock g s = .ok figures s' →
          (∃ calls, s'.engine.log.toList = s.engine.log.toList ++ calls ∧ figures.requests = calls.length) ∧
          figures.operationsExecuted = g.operations.length ∧
          (options.profiling = true →
            (∀ name, figures.perOperation.contains name = true ↔ ∃ op ∈ g.operations, op.name = name) ∧
            figures.perOperation.map OperationTimes.count = g.operationCounts ∧
            (figures.perOperation.values.map OperationTimes.count).sum = figures.operationsExecuted) ∧
          (options.profiling = false → figures.perOperation = .empty)) ∧
        runGraph { options with profiling := false } clock g s =
          mapResult (fun figures => { figures with perOperation := .empty }) id
            (runGraph { options with profiling := true } clock g s) := by
  refine ⟨?_, fun options clock g s => ⟨fun figures s' hrun => ?_, runGraph_profiling options clock g s⟩⟩
  · have hfresh : Rests failOn (fresh failOn) := atRest_start (coupled_fresh failOn)
    obtain ⟨calls, hlog, hrequests⟩ := Truthful.after hne hfresh history
    have hsize : ((fresh failOn).after history).engine.log.size = calls.length := by
      rw [← Array.length_toList, hlog]
      rfl
    have hzero : (fresh failOn).requests = 0 := rfl
    rw [hrequests, hsize, hzero, Nat.zero_add]
  · have htruthful := Truthful.runGraph_of_ok hrun
    obtain ⟨s₁, -, -, hfigures⟩ := runGraph_ok hrun
    rw [Truthful, failedRequests_ok (by rw [hrun]; rfl), hrun] at htruthful
    obtain ⟨calls, hlog, hrequests⟩ := htruthful
    have hexecuted : figures.operationsExecuted = g.operations.length := by
      rw [hfigures, RunStatistics.ofRun_executed]
    refine ⟨⟨calls, hlog, ?_⟩, hexecuted, fun hprofiling => ?_, fun hprofiling => ?_⟩
    · rw [hfigures]
      simp only [RunStatistics.ofRun, reached_ok] at hrequests ⊢
      omega
    · have hcounts : figures.perOperation.map OperationTimes.count = g.operationCounts := by
        rw [hfigures, RunStatistics.perOperation_ofRun options clock g _ hprofiling]
      refine ⟨fun name => ?_, hcounts, ?_⟩
      · rw [← g.contains_operationCounts, ← hcounts, NameMap.contains_map]
      · rw [← NameMap.values_map, hcounts, g.sum_operationCounts, hexecuted]
    · rw [hfigures, RunStatistics.perOperation_ofRun_of_untimed options clock g.operations _ hprofiling]

/-- a recorder that fails to fill: the write is counted and not logged; and a run of two operations of one name, each
with a literal that is stored and released -/
theorem requests_are_accounted_for_failing_fill :
    let x : Tensor := ⟨"x", .integer, [1], none⟩
    let history : List Step := [.create x, .write { x with data := some (.integer [7]) }]
    let s : Session Recorder BufferRef := (fresh (some Primitive.fill.name)).after history
    let inputs := ((Operation.named "add" .integer).withInput "x" (.identifier "x")).withInput "y" (.integer 1)
    let add := inputs.withOutput "z" (.identifier "x")
    let g : Graph := ⟨"g", [add, add], .ofList [("x", x)]⟩
    some Primitive.fill.name ≠ some Primitive.release.name ∧ s.requests = 2 ∧ s.engine.log.size = 1 ∧
      failedSteps (fresh (some Primitive.fill.name)) history = 1 ∧
      ∃ figures s', runGraph default Clock.still g (start .fresh : Session Recorder BufferRef) = .ok figures s' ∧
        figures.requests = s'.engine.log.size ∧ figures.perOperation.map OperationTimes.count = g.operationCounts := by
  intro x history s inputs add g
  have haccounts := requests_are_accounted_for (some Primitive.fill.name) (by decide) history
  have hlog : s.engine.log.size = 1 := by decide +kernel
  have hfailed : failedSteps (fresh (some Primitive.fill.name)) history = 1 := by decide +kernel
  have hok : fault? (runGraph default Clock.still g (start .fresh : Session Recorder BufferRef)) = none := by
    decide +kernel
  refine ⟨by decide, ?_, hlog, hfailed, ?_⟩
  · rw [haccounts.1, hlog, hfailed]
  · cases hrun : runGraph default Clock.still g (start .fresh : Session Recorder BufferRef) with
    | error e s' => rw [hrun] at hok; cases hok
    | ok figures s' =>
      obtain ⟨⟨calls, hcalls, hrequests⟩, -, htimes, -⟩ := (haccounts.2 default Clock.still g _).1 figures s' hrun
      have hsize : s'.engine.log.size = calls.length := by
        rw [← Array.length_toList, hcalls]
        rfl
      exact ⟨figures, s', rfl, hrequests.trans hsize.symm, (htimes rfl).2.1⟩

end Session

end TensorGraph
