/-
What a failing primitive changes.

Model: `failing p` is the same session on a recorder whose primitive `p` always fails. An action that goes well on a
recorder without failures is either the same with the failure or is cut off right before its first call of `p`
(`Cut`). An action for which this is so is `Faithful`.

A name is given three times: by the operator that makes a request, for the fault if there is one, by the recorder, which
checks it against the one that always fails, and by the entry in the log (`Call.belongsTo`). All three are the same.

Main results:
- `isNamed_of_decision`, `Recorder.checked_eq_primitive` and `Call.name_primitive`: the three names agree;
- `Faithful.bind`, `.storeLiterals`, `.issue`, `.prepareAll`: everything that only makes requests is faithful;
- `perform_failing`, `runFrom_failing_error`: an operation that is cut off gives back the scratch tensors that it has,
  and the operations after it do not run;
- `run_failingOn`: the log of a failing run is the log of the good one up to the failure, and those releases.
-/
import TensorGraph.Proofs.Atomicity
import TensorGraph.Proofs.Composition

namespace TensorGraph

/-! ## Model -/

/-- the same recorder, with a primitive that always fails -/
def Recorder.failing (p : String) (r : Recorder) : Recorder := { r with failOn := some p }

/-- the name of the primitive that a logged request belongs to; convolutions are told apart by their strategies -/
def Call.belongsTo : Call → String
  | .allocate .. => "allocate"
  | .release .. => "release"
  | .fill .. => "fill"
  | .read .. => "read"
  | .copy .. => "copy"
  | .compute (.unary ..) => "unary"
  | .compute (.binary ..) => "binary"
  | .compute (.select ..) => "select"
  | .compute (.reduce ..) => "reduce"
  | .compute (.argReduce ..) => "arg_reduce"
  | .compute (.softmax ..) => "softmax"
  | .compute (.conv .direct ..) => "conv"
  | .compute (.conv .depthwise ..) => "depthwise_conv"
  | .compute (.conv (.grouped _) ..) => "grouped_conv"
  | .compute (.pool ..) => "pool"
  | .compute (.matmul ..) => "matmul"
  | .compute (.linear ..) => "linear"
  | .compute (.transpose ..) => "transpose"
  | .compute (.concat ..) => "concat"
  | .compute (.split ..) => "split"
  | .compute (.padConstant ..) => "pad_constant"
  | .compute (.padReplicate ..) => "pad_replicate"
  | .compute (.tile ..) => "tile"
  | .compute (.slice ..) => "slice"

/-- what a primitive that always fails is reported as -/
def RunError.injected (q : Primitive) : RunError := .engine q (Fault.injected q).message

namespace Session

/-- the same session, with a primitive that always fails -/
def failing (p : String) (s : Session Recorder BufferRef) : Session Recorder BufferRef :=
  { s with engine := s.engine.failing p }

/-- what an action that made `calls` comes to if `p` always fails: the same if none of them belongs to `p`; otherwise the
first that does is its fault, and those before it are what it leaves in the log -/
inductive Cut {α : Type} (p : String) (calls : List Call) (s : Session Recorder BufferRef) (a : α)
    (s' : Session Recorder BufferRef) : EStateM.Result RunError (Session Recorder BufferRef) α → Prop
  | same (h : ∀ c ∈ calls, c.belongsTo ≠ p) : Cut p calls s a s' (.ok a (s'.failing p))
  | here {before after : List Call} {c : Call} {s'' : Session Recorder BufferRef} (hcalls : calls = before ++ c :: after)
    (hbefore : ∀ b ∈ before, b.belongsTo ≠ p) (hc : c.belongsTo = p)
    (hlog : s''.engine.log.toList = s.engine.log.toList ++ before) :
    Cut p calls s a s' (.error (.injected c.primitive) s'')

/-- an action that is cut off where its first call of `p` would be, if `p` always fails -/
def Faithful {α : Type} (p : String) (act : SessionM Recorder BufferRef α) : Prop :=
  ∀ s a s', s.engine.failOn = none → act s = .ok a s' → s'.engine.failOn = none ∧
    ∃ calls, s'.engine.log.toList = s.engine.log.toList ++ calls ∧ Cut p calls s a s' (act (s.failing p))

end Session

/-- what is in the log of a fresh recorder after the tensors of a graph were prepared and the first `k` operations ran -/
def Graph.logUpTo (g : Graph) (k : Nat) : List Call :=
  (reached (Session.runGraph default Clock.still { g with operations := g.operations.take k }
    (Session.fresh none))).engine.log.toList

/-- the primitive of an entry is the one that it belongs to -/
theorem Call.name_primitive (c : Call) : c.primitive.name = c.belongsTo := by
  cases c with
  | compute kernel =>
    cases kernel with
    | conv strategy => cases strategy <;> rfl
    | _ => rfl
  | _ => rfl

/-! ## Primitives -/

namespace Recorder

variable {α : Type}

theorem data?_failing (p : String) (r : Recorder) (id : Nat) : (r.failing p).data? id = r.data? id := rfl

/-- a primitive that does the same whatever always fails, unless it is itself what fails -/
structure Injects (q : Primitive) (act : EStateM Fault Recorder α) : Prop where
  good : ∀ {r r' : Recorder} {a : α}, r.failOn = none → act r = .ok a r' →
    r'.failOn = none ∧ ∃ c, c.primitive = q ∧ r'.log.toList = r.log.toList ++ [c]
  failed : ∀ {r r' : Recorder} {a : α} (p : String), r.failOn = none → act r = .ok a r' →
    act (r.failing p) = if q.name = p then .error (.injected q) (r.failing p) else .ok a (r'.failing p)

/-- a primitive with its check, if what comes after the check does not look at what always fails -/
theorem Injects.attempt {q : Primitive} {body : EStateM Fault Recorder α}
    (hgood : ∀ {r r' : Recorder} {a : α}, body r = .ok a r' →
      r'.failOn = r.failOn ∧ ∃ c, c.primitive = q ∧ r'.log.toList = r.log.toList ++ [c])
    (hfailing : ∀ (r : Recorder) p, body (r.failing p) = mapResult id (Recorder.failing p) (body r)) :
    Injects q (attempt q body) := by
  refine ⟨fun {r r' a} hr h => ?_, fun {r r' a} p hr h => ?_⟩
  · obtain ⟨hfail, hcall⟩ := hgood (attempt_ok h).2
    exact ⟨hfail.trans hr, hcall⟩
  · by_cases hp : q.name = p
    · rw [if_pos hp]
      exact attempt_of_refuses (show (r.failing p).Refuses q from congrArg some hp.symm) body
    · have hr' : ¬ (r.failing p).Refuses q := fun hq => hp (Option.some.inj hq).symm
      rw [if_neg hp, attempt_of_not_refuses hr', hfailing, (attempt_ok h).2]
      rfl

theorem injects_allocate (kind : ElementKind) (shape : List Nat) : Injects .allocate (allocate kind shape) := by
  refine .attempt (fun {r r' a} h => ?_) fun r p => ?_
  · cases hz : Payload.zeros kind (volume shape) with
    | none => rw [hz] at h; cases h
    | some zeros => rw [hz] at h; cases h; exact ⟨rfl, _, rfl, Array.toList_push ..⟩
  · cases hz : Payload.zeros kind (volume shape) <;> rfl

theorem injects_release (t : BufferRef) : Injects .release (release t) := by
  refine .attempt (fun {r r' a} h => ?_) fun r p => ?_
  · cases ht : r.data? t.id with
    | none => rw [ht] at h; cases h
    | some old => rw [ht] at h; cases h; exact ⟨rfl, _, rfl, Array.toList_push ..⟩
  · rw [data?_failing]
    cases r.data? t.id <;> rfl

theorem injects_fill (t : BufferRef) (x : Payload) : Injects .fill (fill t x) := by
  refine .attempt (fun {r r' a} h => ?_) fun r p => ?_
  · cases ht : r.data? t.id with
    | none => rw [ht] at h; cases h
    | some old =>
      rw [ht] at h
      dsimp only at h
      split at h
      · cases h
        exact ⟨rfl, _, rfl, Array.toList_push ..⟩
      · cases h
  · rw [data?_failing]
    cases r.data? t.id with
    | none => rfl
    | some old =>
      dsimp only
      split <;> rfl

theorem injects_copy (x y : BufferRef) : Injects .copy (copy x y) := by
  refine .attempt (fun {r r' a} h => ?_) fun r p => ?_
  · cases hx : r.data? x.id with
    | none => rw [hx] at h; cases h
    | some source =>
      cases hy : r.data? y.id with
      | none => rw [hx, hy] at h; cases h
      | some target =>
        rw [hx, hy] at h
        dsimp only at h
        split at h
        · cases h
          exact ⟨rfl, _, rfl, Array.toList_push ..⟩
        · cases h
  · rw [data?_failing, data?_failing]
    cases r.data? x.id with
    | none => rfl
    | some source =>
      cases r.data? y.id with
      | none => rfl
      | some target =>
        dsimp only
        split <;> rfl

theorem injects_compute (k : Kernel BufferRef) : Injects k.primitive (compute k) := by
  rw [compute_eq_attempt]
  refine .attempt (fun {r r' a} h => ?_) fun r p => rfl
  cases h
  exact ⟨rfl, .compute (k.map BufferRef.id), k.primitive_map _, Array.toList_push ..⟩

end Recorder

/-! ## Sequences -/

namespace Session

variable {α β : Type} {p : String}

@[simp] theorem failing_bindings (s : Session Recorder BufferRef) : (s.failing p).bindings = s.bindings := rfl

@[simp] theorem failing_buffers (s : Session Recorder BufferRef) : (s.failing p).engine.buffers = s.engine.buffers := rfl

/-- the primitive that a request is reported under is the one that the recorder checks and the one of its call -/
theorem invoke_failing {q : Primitive} {act : EStateM Fault Recorder α} (h : Recorder.Injects q act)
    {s s' : Session Recorder BufferRef} {a : α} (hs : s.engine.failOn = none)
    (hok : invoke q (Recorder.inWords act) s = .ok a s') :
    s'.engine.failOn = none ∧ ∃ c, c.primitive = q ∧ s'.engine.log.toList = s.engine.log.toList ++ [c] ∧
      invoke q (Recorder.inWords act) (s.failing p) =
        if q.name = p then .error (.injected q) { s.failing p with requests := s.requests + 1 }
        else .ok a (s'.failing p) := by
  unfold invoke at hok ⊢
  rw [Recorder.inWords_apply] at hok ⊢
  cases hr : act s.engine with
  | error f r => rw [hr] at hok; cases hok
  | ok a' r =>
    rw [hr] at hok
    cases hok
    obtain ⟨hfail, c, hc, hlog⟩ := h.good hs hr
    refine ⟨hfail, c, hc, hlog, ?_⟩
    rw [show (s.failing p).engine = s.engine.failing p from rfl, h.failed p hs hr]
    split_ifs <;> rfl

namespace Faithful

/-- an action that makes no request, and does not look at the engine -/
theorem of_quiet {act : SessionM Recorder BufferRef α}
    (h : ∀ {s s' : Session Recorder BufferRef} {a : α}, act s = .ok a s' →
      s'.engine = s.engine ∧ act (s.failing p) = .ok a (s'.failing p)) : Faithful p act := by
  intro s a s' hs hact
  obtain ⟨hengine, hfailing⟩ := h hact
  refine ⟨by rw [hengine, hs], [], by rw [hengine, List.append_nil], ?_⟩
  rw [hfailing]
  exact .same fun c hc => nomatch hc

theorem pure (a : α) : Faithful p (pure a) := of_quiet fun h => by cases h; exact ⟨rfl, rfl⟩

theorem throw (e : RunError) : Faithful p (throw e : SessionM Recorder BufferRef α) := fun _ _ _ _ h => nomatch h

/-- what is cut off in the first part never gets to the second -/
theorem bind {x : SessionM Recorder BufferRef α} {k : α → SessionM Recorder BufferRef β} (hx : Faithful p x)
    (hk : ∀ a, Faithful p (k a)) : Faithful p (x >>= k) := by
  intro s b s₂ hs h
  rw [bind_apply] at h
  cases hx' : x s with
  | error e s₁ => rw [hx'] at h; cases h
  | ok a s₁ =>
    rw [hx'] at h
    obtain ⟨hs₁, calls, hlog, hcut⟩ := hx s a s₁ hs hx'
    obtain ⟨hs₂, calls', hlog', hcut'⟩ := hk a s₁ b s₂ hs₁ h
    refine ⟨hs₂, calls ++ calls', by rw [hlog', hlog, List.append_assoc], ?_⟩
    rw [bind_apply]
    generalize x (s.failing p) = result at hcut
    cases hcut with
    | here hcalls hbefore hc hcutLog =>
      exact .here (by rw [hcalls, List.append_assoc, List.cons_append]) hbefore hc hcutLog
    | same hnone =>
      dsimp only
      generalize k a (s₁.failing p) = result' at hcut'
      cases hcut' with
      | same hnone' => exact .same fun c hc => (List.mem_append.1 hc).elim (hnone c) (hnone' c)
      | here hcalls hbefore hc hcutLog =>
        refine .here (by rw [hcalls, List.append_assoc]) (fun b hb => ?_) hc (by rw [hcutLog, hlog, List.append_assoc])
        exact (List.mem_append.1 hb).elim (hnone b) (hbefore b)

/-! ## Requests -/

theorem invoke {q : Primitive} {act : EStateM Fault Recorder α} (h : Recorder.Injects q act) :
    Faithful p (invoke q (Recorder.inWords act) : SessionM Recorder BufferRef α) := by
  intro s a s' hs hact
  obtain ⟨hs', c, hc, hlog, hfailing⟩ := invoke_failing h hs hact
  refine ⟨hs', [c], hlog, ?_⟩
  rw [hfailing]
  by_cases hq : q.name = p
  · have hcalls : [c] = [] ++ c :: [] := rfl
    rw [if_pos hq, ← hc]
    exact .here hcalls (fun b hb => nomatch hb) (c.name_primitive ▸ hc ▸ hq) (List.append_nil _).symm
  · rw [if_neg hq]
    refine .same fun c' hc' => ?_
    rw [List.mem_singleton.1 hc', ← c.name_primitive, hc]
    exact hq

theorem handle (name : String) : Faithful p (handle name : SessionM Recorder BufferRef BufferRef) := by
  refine of_quiet fun {s s' t} h => ?_
  unfold Session.handle at h ⊢
  rw [failing_bindings]
  cases ht : s.bindings.find? name with
  | none => rw [ht] at h; cases h
  | some u => rw [ht] at h; cases h; exact ⟨rfl, rfl⟩

theorem literal (l : Literal) : Faithful p (literal l : SessionM Recorder BufferRef BufferRef) :=
  (invoke (Recorder.injects_allocate _ _)).bind fun _ =>
    (of_quiet fun h => by cases h; exact ⟨rfl, rfl⟩).bind fun _ =>
      (invoke (Recorder.injects_fill _ _)).bind fun _ => pure _

theorem storeLiterals (ls : List Literal) : Faithful p (storeLiterals ls : SessionM Recorder BufferRef Unit) := by
  induction ls with
  | nil => exact pure ()
  | cons l rest ih => exact (literal l).bind fun _ => ih

theorem decided (x : Except RunError α) : Faithful p (decided x : SessionM Recorder BufferRef α) := by
  cases x with
  | ok a => exact pure a
  | error e => exact throw e

/-- a request under the name of its primitive -/
theorem issue {i : Instruction BufferRef} (hi : i.IsNamed) :
    Faithful p (issue i : SessionM Recorder BufferRef Unit) := by
  cases i with
  | idle => exact pure ()
  | fill t x => exact invoke (Recorder.injects_fill t x)
  | copy x y => exact invoke (Recorder.injects_copy x y)
  | compute name k =>
    obtain rfl : name = k.primitive := hi
    exact invoke (Recorder.injects_compute k)

/-! ## Preparation -/

theorem bindTensor (t : Tensor) : Faithful p (bindTensor t : SessionM Recorder BufferRef Unit) := by
  -- where the name is new and the kind can be stored, a creation is a sequence
  have hcreate : ∀ s : Session Recorder BufferRef, ¬ s.isTaken t.name → ¬ !t.kind.isConcrete →
      Session.bindTensor t s = (do
        let u ← Session.invoke .allocate (Recorder.inWords (Recorder.allocate t.kind t.shape))
        modify fun s : Session Recorder BufferRef => { s with bindings := s.bindings.insert t.name u }) s := by
    intro s hnew hkind
    rw [Session.bindTensor, if_neg hnew, if_neg hkind, bind_apply, Recorder.engine_allocate]
    cases Session.invoke .allocate (Recorder.inWords (Recorder.allocate t.kind t.shape)) s <;> rfl
  intro s a s' hs h
  by_cases htaken : s.isTaken t.name
  · rw [Session.bindTensor, if_pos htaken] at h
    cases h
  by_cases hkind : !t.kind.isConcrete
  · rw [Session.bindTensor, if_neg htaken, if_pos hkind] at h
    cases h
  rw [hcreate s htaken hkind] at h
  rw [hcreate (s.failing p) htaken hkind]
  exact (invoke (Recorder.injects_allocate _ _)).bind (fun _ => of_quiet fun h => by cases h; exact ⟨rfl, rfl⟩)
    s a s' hs h

theorem store (t : Tensor) : Faithful p (store t : SessionM Recorder BufferRef Unit) := by
  unfold Session.store
  split
  · exact throw _
  · exact (handle _).bind fun _ => invoke (Recorder.injects_fill _ _)

theorem prepare (key : String) (t : Tensor) : Faithful p (prepare key t : SessionM Recorder BufferRef Unit) := by
  have hnew : Faithful p (do Session.bindTensor t; if t.data.isSome then Session.store t) := by
    refine (bindTensor t).bind fun _ => ?_
    split
    · exact store t
    · exact pure ()
  intro s a s' hs h
  unfold Session.prepare at h ⊢
  rw [show (s.failing p).isBound key = s.isBound key from rfl]
  split at h
  · rename_i hbound
    rw [if_pos hbound]
    exact pure () s a s' hs h
  · rename_i hbound
    rw [if_neg hbound]
    exact hnew s a s' hs h

theorem prepareAll (options : RunOptions) (g : Graph) :
    Faithful p (prepareAll options g : SessionM Recorder BufferRef Unit) := by
  have hmaterialize : ∀ entries : List (String × Tensor),
      Faithful p (materialize entries : SessionM Recorder BufferRef Unit) := fun entries => by
    induction entries with
    | nil => exact pure ()
    | cons e rest ih => exact (prepare e.1 e.2).bind fun _ => ih
  unfold Session.prepareAll
  split
  · exact hmaterialize _
  · exact pure ()

/-! ## Operations -/

/-- an operation stores, decides and makes its request in the same order, whatever always fails -/
theorem dispatch (o : Operator) (op : Operation) : Faithful p (dispatch o op : SessionM Recorder BufferRef Unit) := by
  intro s a s' hs h
  rw [dispatch_eq] at h
  rw [dispatch_eq, failing_bindings, failing_buffers]
  cases hd : (o.decision s.bindings.find? op).outcome with
  | error e =>
    rw [hd] at h
    exact ((storeLiterals _).bind fun _ => throw e) s a s' hs h
  | ok i =>
    rw [hd] at h
    exact ((storeLiterals _).bind fun _ => issue ((isNamed_of_decision hd).map _)) s a s' hs h

end Faithful

/-- releasing goes on as before if something else fails -/
theorem releaseAll_failing (hp : p ≠ Primitive.release.name) {ts : List BufferRef} {s s' : Session Recorder BufferRef}
    {u : Unit} (hs : s.engine.failOn = none) (h : releaseAll ts s = .ok u s') :
    s'.engine.failOn = none ∧ releaseAll ts (s.failing p) = .ok () (s'.failing p) ∧
      ∃ calls, s'.engine.log.toList = s.engine.log.toList ++ calls ∧ ∀ c ∈ calls, c.belongsTo ≠ p := by
  induction ts generalizing s with
  | nil => cases h; exact ⟨hs, rfl, [], (List.append_nil _).symm, fun c hc => nomatch hc⟩
  | cons t rest ih =>
    rw [releaseAll, both_apply, Recorder.engine_release] at h ⊢
    cases hfirst : invoke .release (Recorder.inWords (Recorder.release t)) s with
    | error e s₁ => rw [hfirst] at h; cases h
    | ok v s₁ =>
      obtain ⟨hs₁, c, hc, hlog, hfailing⟩ := invoke_failing (Recorder.injects_release t) hs hfirst
      rw [hfirst] at h
      obtain ⟨hs', hrest, calls, hlog', hcalls⟩ := ih hs₁ h
      rw [hfailing, if_neg hp.symm]
      refine ⟨hs', hrest, c :: calls, by rw [hlog', hlog, List.append_assoc]; rfl, fun c' hc' => ?_⟩
      rcases List.mem_cons.1 hc' with rfl | hc'
      · rw [← Call.name_primitive, hc]
        exact hp.symm
      · exact hcalls c' hc'

/-- what an operation that made `calls` comes to if `p` always fails: the same, or it is cut off, and the buffers of the
literals that it has stored are released -/
inductive CutOperation (p : String) (ls : List Literal) (calls : List Call) (s s' : Session Recorder BufferRef) :
    EStateM.Result RunError (Session Recorder BufferRef) Unit → Prop
  | same (h : ∀ c ∈ calls, c.belongsTo ≠ p) : CutOperation p ls calls s s' (.ok () (s'.failing p))
  | here {stored after : List Call} {c : Call} {s'' : Session Recorder BufferRef} (hcalls : calls = stored ++ c :: after)
    (hbefore : ∀ b ∈ stored, b.belongsTo ≠ p) (hc : c.belongsTo = p)
    (hstored : stored <+: literalCalls s.engine.buffers.size ls)
    (hlog : s''.engine.log.toList =
      s.engine.log.toList ++ stored ++ (stored.filterMap Call.allocated?).map Call.release) :
    CutOperation p ls calls s s' (.error (.injected c.primitive) s'')

theorem perform_failing (hp : p ≠ Primitive.release.name) {o : Operator} {op : Operation}
    {s s' : Session Recorder BufferRef} {u : Unit} (hs : s.engine.failOn = none) (hscratch : s.scratch = [])
    (h : perform o op s = .ok u s') :
    s'.engine.failOn = none ∧ ∃ calls, s'.engine.log.toList = s.engine.log.toList ++ calls ∧
      CutOperation p (o.literals op) calls s s' (perform o op (s.failing p)) := by
  unfold perform at h ⊢
  by_cases hconcrete : op.dtype.isConcrete
  swap
  · rw [if_neg hconcrete] at h
    cases h
  rw [if_pos hconcrete, both_apply] at h ⊢
  cases hd : dispatch o op s with
  | error e s₁ => rw [hd] at h; cases h
  | ok v s₁ =>
    rw [hd] at h
    obtain ⟨hs₁, calls, hlog, hcut⟩ := Faithful.dispatch (p := p) o op s v s₁ hs hd
    obtain ⟨hs', hrelease, releases, hlog', hreleases⟩ :=
      releaseAll_failing (s := { s₁ with scratch := [] }) hp hs₁ h
    refine ⟨hs', calls ++ releases, by rw [hlog', hlog, List.append_assoc], ?_⟩
    cases hd' : dispatch o op (s.failing p) with
    | ok v' t =>
      rw [hd'] at hcut
      cases hcut with
      | same hnone =>
        rw [fault?_ok, reached_ok, show releaseScratch (s₁.failing p) = .ok () (s'.failing p) from hrelease]
        exact .same fun c hc => (List.mem_append.1 hc).elim (hnone c) (hreleases c)
    | error e t =>
      rw [hd'] at hcut
      cases hcut with
      | here hcalls hbefore hc hcutLog =>
        -- what is in the log by then are literals that were stored, so their buffers are released
        rcases dispatch_result o op (s.failing p) with ⟨i, -, -, hok⟩ | ⟨e', t', stored, herror, -, hprefix, hstored⟩
        · rw [hd'] at hok
          cases hok
        · rw [hd'] at herror
          cases herror
          obtain rfl : stored = _ := List.append_cancel_left (hstored.log.symm.trans hcutLog)
          have hr : ¬ (s.failing p).engine.Refuses .release := fun hr => hp (Option.some.inj hr)
          obtain ⟨t'', hrelease', hlog'', -⟩ := releaseScratch_of_stored (s := s.failing p) hscratch hstored hr
          rw [fault?_error, reached_error, hrelease']
          exact .here (by rw [hcalls, List.append_assoc, List.cons_append]) hbefore hc hprefix hlog''

/-! ## Runs -/

/-- the scratch tensors of an operation are gone when it is over -/
theorem scratch_performNamed {op : Operation} {s s' : Session Recorder BufferRef} {u : Unit} (hscratch : s.scratch = [])
    (h : performNamed op s = .ok u s') : s'.scratch = [] := by
  have hkeeps := keeps_performNamed (fun o op s hs => (perform_keeps Custody.any o op (s := s) trivial).2.2.2 hs) op s
    hscratch
  rwa [h] at hkeeps

theorem performNamed_failing (hp : p ≠ Primitive.release.name) {op : Operation} {s s' : Session Recorder BufferRef}
    {u : Unit} (hs : s.engine.failOn = none) (hscratch : s.scratch = []) (h : performNamed op s = .ok u s') :
    s'.engine.failOn = none ∧ ∃ r calls, Operator.named? op.name = some r ∧
      s'.engine.log.toList = s.engine.log.toList ++ calls ∧
      CutOperation p (r.operator.literals op) calls s s' (performNamed op (s.failing p)) := by
  unfold performNamed at h ⊢
  cases hr : Operator.named? op.name with
  | none => rw [hr] at h; cases h
  | some r =>
    rw [hr] at h
    obtain ⟨hs', calls, hlog, hcut⟩ := perform_failing hp hs hscratch h
    exact ⟨hs', r, calls, rfl, hlog, hcut⟩

/-- operations that go well add to the log and leave no scratch tensor -/
theorem runFrom_grows {index : Nat} {ops : List Operation} {s s' : Session Recorder BufferRef} {u : Unit}
    (hs : s.engine.failOn = none) (hscratch : s.scratch = []) (h : runFrom index ops s = .ok u s') :
    s'.engine.failOn = none ∧ s'.scratch = [] ∧ s.engine.log.toList <+: s'.engine.log.toList := by
  induction ops generalizing index s with
  | nil => cases h; exact ⟨hs, hscratch, List.prefix_refl _⟩
  | cons op rest ih =>
    obtain ⟨s₁, hop, hrest⟩ := runFrom_cons_ok h
    obtain ⟨hs₁, r, calls, -, hlog, -⟩ := performNamed_failing (p := "") (by decide) hs hscratch hop
    obtain ⟨hs', hscratch', hprefix⟩ := ih hs₁ (scratch_performNamed hscratch hop) hrest
    exact ⟨hs', hscratch', (hlog ▸ List.prefix_append _ _).trans hprefix⟩

/-- operations that go well although `p` always fails did not need it -/
theorem runFrom_failing_ok (hp : p ≠ Primitive.release.name) {index : Nat} {ops : List Operation}
    {s s' t : Session Recorder BufferRef} {u v : Unit} (hs : s.engine.failOn = none) (hscratch : s.scratch = [])
    (h : runFrom index ops s = .ok u s') (ht : runFrom index ops (s.failing p) = .ok v t) :
    t = s'.failing p ∧
      ∃ calls, s'.engine.log.toList = s.engine.log.toList ++ calls ∧ ∀ c ∈ calls, c.belongsTo ≠ p := by
  induction ops generalizing index s with
  | nil => cases h; cases ht; exact ⟨rfl, [], (List.append_nil _).symm, fun c hc => nomatch hc⟩
  | cons op rest ih =>
    obtain ⟨s₁, hop, hrest⟩ := runFrom_cons_ok h
    obtain ⟨t₁, hop', hrest'⟩ := runFrom_cons_ok ht
    obtain ⟨hs₁, r, calls, -, hlog, hcut⟩ := performNamed_failing hp hs hscratch hop
    rw [hop'] at hcut
    cases hcut with
    | same hnone =>
      obtain ⟨rfl, calls', hlog', hnone'⟩ := ih hs₁ (scratch_performNamed hscratch hop) hrest hrest'
      exact ⟨rfl, calls ++ calls', by rw [hlog', hlog, List.append_assoc],
        fun c hc => (List.mem_append.1 hc).elim (hnone c) (hnone' c)⟩

/-- operations that only fail because `p` always fails are cut off in one of them, right before a call of `p` -/
theorem runFrom_failing_error (hp : p ≠ Primitive.release.name) {index : Nat} {ops : List Operation}
    {s s' t : Session Recorder BufferRef} {u : Unit} {e : RunError} (hs : s.engine.failOn = none)
    (hscratch : s.scratch = []) (h : runFrom index ops s = .ok u s')
    (ht : runFrom index ops (s.failing p) = .error e t) :
    ∃ k op r before stored c s₁ s₂, ops[k]? = some op ∧ Operator.named? op.name = some r ∧
      e = .operation (index + k) op.name (.injected c.primitive) ∧
      runFrom index (ops.take k) s = .ok () s₁ ∧ runFrom index (ops.take (k + 1)) s = .ok () s₂ ∧
      s₁.engine.log.toList = s.engine.log.toList ++ before ∧ (∀ b ∈ before ++ stored, b.belongsTo ≠ p) ∧
      c.belongsTo = p ∧ stored <+: literalCalls s₁.engine.buffers.size (r.operator.literals op) ∧
      s₁.engine.log.toList ++ stored ++ [c] <+: s₂.engine.log.toList ∧
      s₂.engine.log.toList <+: s'.engine.log.toList ∧
      t.engine.log.toList =
        s₁.engine.log.toList ++ stored ++ (stored.filterMap Call.allocated?).map Call.release := by
  obtain ⟨k, op, cause, t₁, hop, hbefore, hfails, rfl⟩ := runFrom_error ht
  -- without the failure, the operations up to this one go well, and so does this one
  have htake : ops.take (k + 1) = ops.take k ++ [op] := by rw [List.take_add_one, hop]; rfl
  rw [← List.take_append_drop (k + 1) ops] at h
  obtain ⟨s₂, hs₂, hrest⟩ := runFrom_append_ok h
  have hs₂' := hs₂
  rw [htake] at hs₂'
  obtain ⟨s₁, hs₁, hone⟩ := runFrom_append_ok hs₂'
  obtain ⟨s₃, hgood, hnil⟩ := runFrom_cons_ok hone
  obtain rfl : s₃ = s₂ := by cases hnil; rfl
  obtain ⟨hfail₁, hscratch₁, -⟩ := runFrom_grows hs hscratch hs₁
  obtain ⟨hfail₃, hscratch₃, -⟩ := runFrom_grows hs hscratch hs₂
  obtain ⟨rfl, before, hlog, hnone⟩ := runFrom_failing_ok hp hs hscratch hs₁ hbefore
  obtain ⟨-, r, calls, hr, hlog₃, hcut⟩ := performNamed_failing hp hfail₁ hscratch₁ hgood
  rw [hfails] at hcut
  cases hcut with
  | @here stored after c _ hcalls hstored hc hprefix hleft =>
    refine ⟨k, op, r, before, stored, c, s₁, s₃, hop, hr, rfl, hs₁, hs₂, hlog, fun b hb => ?_, hc, hprefix, ?_,
      (runFrom_grows hfail₃ hscratch₃ hrest).2.2, hleft⟩
    · exact (List.mem_append.1 hb).elim (hnone b) (hstored b)
    · rw [hlog₃, hcalls, List.append_assoc]
      exact (List.prefix_append_right_inj _).2 ((List.prefix_append_right_inj _).2 ⟨after, rfl⟩)

/-- how a run ends, and what is in the log then, if it is cut off right before a call `c` with `before` in the log -/
inductive Interrupted (g : Graph) (before : List Call) (c : Call) : RunError → List Call → Prop
  | preparing (h : before.length < (g.logUpTo 0).length) : Interrupted g before c (.injected c.primitive) before
  | operation {k : Nat} {op : Operation} {r : Registration} {first : Nat} {stored : List Call}
    (hop : g.operations[k]? = some op) (hr : Operator.named? op.name = some r)
    (hstored : stored <+: literalCalls first (r.operator.literals op)) (hbefore : before = g.logUpTo k ++ stored)
    (hc : before ++ [c] <+: g.logUpTo (k + 1)) (hle : (g.logUpTo 0).length ≤ before.length) :
    Interrupted g before c (.operation k op.name (.injected c.primitive))
      (before ++ (stored.filterMap Call.allocated?).map Call.release)

/-- whichever way it ends, the primitive of the call is at fault -/
theorem Interrupted.root_eq {g : Graph} {before log : List Call} {c : Call} {e : RunError}
    (h : Interrupted g before c e log) : e.root = .engine c.primitive s!"injected failure in '{c.primitive.name}'" := by
  cases h <;> rfl

/-- what is prepared and run, if it goes well -/
theorem logUpTo_eq {g : Graph} {s₁ s₂ : Session Recorder BufferRef} {k : Nat}
    (hprep : prepareAll default g (fresh none) = .ok () s₁)
    (hops : runFrom 0 (g.operations.take k) s₁ = .ok () s₂) : g.logUpTo k = s₂.engine.log.toList := by
  have hprep' : prepareAll default { g with operations := g.operations.take k } (fresh none) = .ok () s₁ := hprep
  rw [Graph.logUpTo, runGraph_of_ok hprep' hops]
  rfl

/-- operations after a preparation that does not need `p` are cut off at the first call of `p` -/
theorem interrupted_of_operations (hp : p ≠ Primitive.release.name) {g : Graph} {s₁ s t : Session Recorder BufferRef}
    {u : Unit} {e : RunError} (hs₁ : s₁.engine.failOn = none) (hscratch : s₁.scratch = [])
    (hprep : prepareAll default g (fresh none) = .ok () s₁) (hnone : ∀ c ∈ s₁.engine.log.toList, c.belongsTo ≠ p)
    (hops : runFrom 0 g.operations s₁ = .ok u s) (hops' : runFrom 0 g.operations (s₁.failing p) = .error e t) :
    ∃ before c after, s.engine.log.toList = before ++ c :: after ∧ (∀ b ∈ before, b.belongsTo ≠ p) ∧
      c.belongsTo = p ∧ Interrupted g before c e t.engine.log.toList := by
  obtain ⟨k, op, r, before, stored, c, u₁, u₂, hop, hr, rfl, hu₁, hu₂, hlog₁, hbefore, hc, hstored, hprefix, hrest,
    hleft⟩ := runFrom_failing_error hp hs₁ hscratch hops hops'
  obtain ⟨after, hafter⟩ := hprefix.trans hrest
  refine ⟨s₁.engine.log.toList ++ before ++ stored, c, after, ?_, fun b hb => ?_, hc, ?_⟩
  · rw [← hafter, hlog₁, List.append_assoc _ [c]]
    rfl
  · rw [List.append_assoc] at hb
    exact (List.mem_append.1 hb).elim (hnone b) (hbefore b)
  · rw [hleft, hlog₁, Nat.zero_add]
    rw [hlog₁] at hprefix
    refine .operation hop hr hstored (by rw [logUpTo_eq hprep hu₁, hlog₁]) (by rwa [logUpTo_eq hprep hu₂]) ?_
    rw [logUpTo_eq hprep rfl, List.append_assoc, List.length_append]
    omega

/-- a run on a fresh session goes the same way if `p` always fails, or it is cut off at the first call of `p` -/
theorem runGraph_failing (hp : p ≠ Primitive.release.name) {g : Graph} {clock : Clock} {figures : RunStatistics}
    {s : Session Recorder BufferRef} (h : runGraph default clock g (fresh none) = .ok figures s) :
    (runGraph default clock g (fresh (some p)) = .ok figures (s.failing p) ∧
      ∀ c ∈ s.engine.log.toList, c.belongsTo ≠ p) ∨
    ∃ before c after e s', s.engine.log.toList = before ++ c :: after ∧ (∀ b ∈ before, b.belongsTo ≠ p) ∧
      c.belongsTo = p ∧ runGraph default clock g (fresh (some p)) = .error e s' ∧
      Interrupted g before c e s'.engine.log.toList := by
  obtain ⟨s₁, hprep, hops, rfl⟩ := runGraph_ok h
  obtain ⟨hs₁, calls, hlog, hcut⟩ := Faithful.prepareAll (p := p) default g (fresh none) () s₁ rfl hprep
  replace hlog : s₁.engine.log.toList = calls := hlog
  have hscratch : s₁.scratch = [] := by
    have hrest := (invariant_atRest Custody.any).prepareAll default g (fresh none) (atRest_start trivial)
    rw [hprep] at hrest
    exact hrest.scratch
  have hprepared : g.logUpTo 0 = calls := (logUpTo_eq hprep rfl).trans hlog
  have hfresh : fresh (some p) = (fresh none).failing p := rfl
  rw [hfresh]
  cases hprep' : prepareAll default g ((fresh none).failing p) with
  | error e t =>
    rw [hprep'] at hcut
    cases hcut with
    | @here before after c _ hcalls hbefore hc hcutLog =>
      obtain ⟨rest, hrest⟩ := (runFrom_grows hs₁ hscratch hops).2.2
      replace hcutLog : t.engine.log.toList = before := hcutLog
      refine Or.inr ⟨before, c, after ++ rest, _, t, ?_, hbefore, hc, by rw [runGraph_eq, hprep'], ?_⟩
      · rw [← hrest, hlog, hcalls, List.append_assoc, List.cons_append]
      · rw [hcutLog]
        refine .preparing ?_
        rw [hprepared, hcalls, List.length_append, List.length_cons]
        omega
  | ok u t =>
    rw [hprep'] at hcut
    cases hcut with
    | same hnone =>
      cases hops' : runFrom 0 g.operations (s₁.failing p) with
      | ok v t =>
        obtain ⟨rfl, calls', hlog', hnone'⟩ := runFrom_failing_ok hp hs₁ hscratch hops hops'
        refine Or.inl ⟨runGraph_of_ok hprep' hops' clock, fun c hc => ?_⟩
        rw [hlog', hlog] at hc
        exact (List.mem_append.1 hc).elim (hnone c) (hnone' c)
      | error e t =>
        obtain ⟨before, c, after, hsplit, hbefore, hc, hends⟩ :=
          interrupted_of_operations hp hs₁ hscratch hprep (hlog ▸ hnone) hops hops'
        refine Or.inr ⟨before, c, after, e, t, hsplit, hbefore, hc, ?_, hends⟩
        rw [runGraph_eq, hprep']
        dsimp only
        rw [hops']

/-- the first of a list that has a property is one -/
theorem first_unique {α : Type} {P : α → Prop} {before before' after after' : List α} {c c' : α}
    (h : before ++ c :: after = before' ++ c' :: after') (hbefore : ∀ b ∈ before, ¬ P b) (hc : P c)
    (hbefore' : ∀ b ∈ before', ¬ P b) (hc' : P c') : before = before' ∧ c = c' := by
  induction before generalizing before' with
  | nil =>
    cases before' with
    | nil => exact ⟨rfl, (List.cons.inj h).1⟩
    | cons b' rest' =>
      cases h
      exact absurd hc (hbefore' c List.mem_cons_self)
  | cons b rest ih =>
    cases before' with
    | nil =>
      cases h
      exact absurd hc' (hbefore c' List.mem_cons_self)
    | cons b' rest' =>
      obtain ⟨rfl, htail⟩ := List.cons.inj h
      obtain ⟨rfl, rfl⟩ := ih htail (fun x hx => hbefore x (List.mem_cons_of_mem _ hx))
        fun x hx => hbefore' x (List.mem_cons_of_mem _ hx)
      exact ⟨rfl, rfl⟩

/-- **A failing primitive cuts a run off, and does nothing else.** Take any graph that runs well on a fresh recorder, and
let a primitive `p` other than releasing always fail. If no call in the log of the good run belongs to `p`, the run goes
well, with the same figures, in the same state and with the same log. Otherwise it fails, its root fault is that of the
engine in the primitive named `p`, and its log is what comes before the first such call `c` in the good one.

If `c` is in the part of the log where tensors are prepared, that is all, and the fault is about no operation. If not,
`c` belongs to one of the operations, the fault is about this operation, and the buffers of those of its literals that
were stored before `c` are released, oldest first. -/
theorem run_failingOn {g : Graph} {clock : Clock} {figures : RunStatistics} {s : Session Recorder BufferRef}
    (h : runGraph default clock g (fresh none) = .ok figures s) {p : String} (hp : p ≠ "release") :
    ((∀ c ∈ s.engine.log.toList, c.belongsTo ≠ p) →
      runGraph default clock g (fresh (some p)) = .ok figures (s.failing p)) ∧
    ∀ before c after, s.engine.log.toList = before ++ c :: after → (∀ b ∈ before, b.belongsTo ≠ p) →
      c.belongsTo = p → ∃ e s', runGraph default clock g (fresh (some p)) = .error e s' ∧
        (∃ q : Primitive, q.name = p ∧ e.root = .engine q s!"injected failure in '{p}'") ∧
        if before.length < (g.logUpTo 0).length then e.isOperation = false ∧ s'.engine.log.toList = before
        else ∃ k op r first stored, g.operations[k]? = some op ∧ Operator.named? op.name = some r ∧
          e = .operation k op.name e.root ∧ stored <+: literalCalls first (r.operator.literals op) ∧
          before = g.logUpTo k ++ stored ∧ before ++ [c] <+: g.logUpTo (k + 1) ∧
          s'.engine.log.toList = before ++ (stored.filterMap Call.allocated?).map Call.release := by
  have hcases := runGraph_failing hp h
  refine ⟨fun hnone => ?_, fun before c after hsplit hbefore hc => ?_⟩
  · rcases hcases with ⟨hsame, -⟩ | ⟨before, c, after, -, -, hsplit, -, hc, -⟩
    · exact hsame
    · exact absurd hc (hnone c (hsplit ▸ by simp))
  · rcases hcases with ⟨-, hnone⟩ | ⟨before', c', after', e, s', hsplit', hbefore', hc', hrun, hends⟩
    · exact absurd hc (hnone c (hsplit ▸ by simp))
    · obtain ⟨rfl, rfl⟩ := first_unique (hsplit'.symm.trans hsplit) hbefore' hc' hbefore hc
      have hname := c'.name_primitive.trans hc
      refine ⟨e, s', hrun, ⟨c'.primitive, hname, hname ▸ hends.root_eq⟩, ?_⟩
      generalize s'.engine.log.toList = log at hends
      cases hends with
      | preparing hlt =>
        rw [if_pos hlt]
        exact ⟨rfl, rfl⟩
      | @operation k op r first stored hop hr hstored hsplit₀ hprefix hle =>
        rw [if_neg (Nat.not_lt.2 hle)]
        exact ⟨k, op, r, first, stored, hop, hr, rfl, hstored, hsplit₀, hprefix, rfl⟩

/-- a literal is stored before the request that fails, so its buffer is released -/
theorem run_failingOn_binary :
    let op := (((Operation.named "add" .float).withInput "x" (.identifier "x")).withInput "y" (.integer 3)).withOutput
      "z" (.identifier "z")
    let g : Graph := ⟨"g", [op], .ofList [("x", ⟨"x", .float, [2], none⟩), ("z", ⟨"z", .float, [2], none⟩)]⟩
    let before : List Call := [.allocate 0 .float [2], .allocate 1 .float [2], .allocate 2 .integer [], .fill 2]
    let c : Call := .compute (.binary .add .float 0 2 1)
    (∃ figures s, runGraph default Clock.still g (fresh none) = .ok figures s ∧
        s.engine.log.toList = before ++ c :: [.release 2]) ∧
      "binary" ≠ "release" ∧ (∀ b ∈ before, b.belongsTo ≠ "binary") ∧ c.belongsTo = "binary" ∧
      ∃ e s', runGraph default Clock.still g (fresh (some "binary")) = .error e s' ∧ e = .operation 0 "add" e.root ∧
        e.root = .engine .binary "injected failure in 'binary'" ∧ s'.engine.log.toList = before ++ [.release 2] := by
  intro op g before c
  have hlog : (reached (runGraph default Clock.still g (fresh none))).engine.log.toList =
      before ++ c :: [.release 2] := by
    decide +kernel
  have hfault : fault? (runGraph default Clock.still g (fresh none)) = none := by decide +kernel
  have hbefore : ∀ b ∈ before, b.belongsTo ≠ "binary" := by decide
  cases hrun : runGraph default Clock.still g (fresh none) with
  | error e s => rw [hrun] at hfault; cases hfault
  | ok figures s =>
    rw [hrun] at hlog
    refine ⟨⟨figures, s, rfl, hlog⟩, by decide, hbefore, rfl, ?_⟩
    obtain ⟨e, s', hfails, ⟨q, hq, hroot⟩, hends⟩ :=
      (run_failingOn hrun (p := "binary") (by decide)).2 before c [.release 2] hlog hbefore rfl
    rw [if_neg (by decide +kernel)] at hends
    obtain ⟨k, op', r, first, stored, hop, -, he, -, hsplit, -, hleft⟩ := hends
    obtain ⟨hk, hop⟩ := List.getElem?_eq_some_iff.1 hop
    obtain rfl : k = 0 := Nat.lt_one_iff.1 hk
    obtain rfl : op = op' := hop
    have hprepared : g.logUpTo 0 = [.allocate 0 .float [2], .allocate 1 .float [2]] := by decide +kernel
    rw [hprepared] at hsplit
    obtain rfl : [.allocate 2 .integer [], .fill 2] = stored := (List.cons.inj (List.cons.inj hsplit).2).2
    obtain rfl : q = .binary := Primitive.name_injective hq
    exact ⟨e, s', hfails, he, hroot, hleft⟩

end Session

end TensorGraph
