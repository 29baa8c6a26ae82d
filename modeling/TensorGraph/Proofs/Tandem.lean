/-
Runs in tandem.

Model: two sessions that know the same names do the same steps. Their recorders may be of different age and hold other
contents; the graphs that they run may carry other elements. `Alike` is what stays true of the two: they have made the
same requests, up to the numbers of the buffers that are new. All decisions are made on kinds and shapes, so nothing
that differs is ever looked at.

Main results:
- `agree_perform`, `agree_materialize`, `agree_runFrom`: operations, preparation and runs keep two sessions alike;
- `run_depends_on_names`: a run depends on names, kinds and shapes only, and a second run repeats the first one.
-/
import TensorGraph.Proofs.Agreement
import TensorGraph.Proofs.Atomicity
import TensorGraph.Proofs.Composition
import TensorGraph.Proofs.Renumbering

namespace TensorGraph

/-! ## Model -/

/-- tensors that differ at most in the elements of their payloads -/
structure Tensor.Like (t u : Tensor) : Prop where
  name : u.name = t.name
  kind : u.kind = t.kind
  shape : u.shape = t.shape
  data : Option.Rel Payload.Like t.data u.data

/-- graphs that differ at most in the elements of payloads -/
structure Graph.Like (g h : Graph) : Prop where
  operations : h.operations = g.operations
  tensors : List.Forall₂ (fun e e' : String × Tensor => e'.1 = e.1 ∧ e.2.Like e'.2) g.tensors.entries h.tensors.entries

namespace Session

/-- sessions that started as `s₀` and `t₀` and then did the same, up to the numbers of new buffers -/
structure Alike (s₀ t₀ s t : Session Recorder BufferRef) : Prop where
  engine : Recorder.Abreast s₀.engine t₀.engine s.engine t.engine
  bindings : ∀ name, t.bindings.find? name =
    (s.bindings.find? name).map (BufferRef.renumber (s₀.engine.shift t₀.engine))
  reserved : ∀ name, name ∈ t.reserved ↔ name ∈ s.reserved
  scratch : t.scratch = s.scratch.map (BufferRef.renumber (s₀.engine.shift t₀.engine))
  requests : ∃ k, s.requests = s₀.requests + k ∧ t.requests = t₀.requests + k

/-- steps of two sessions that end alike -/
inductive Agree (s₀ t₀ : Session Recorder BufferRef) :
    EStateM.Result RunError (Session Recorder BufferRef) Unit →
      EStateM.Result RunError (Session Recorder BufferRef) Unit → Prop
  | ok {s t : Session Recorder BufferRef} (h : Alike s₀ t₀ s t) : Agree s₀ t₀ (.ok () s) (.ok () t)
  | error {s t : Session Recorder BufferRef} {e e' : RunError}
    (he : RunError.Renumbered (s₀.engine.shift t₀.engine) e e') (h : Alike s₀ t₀ s t) :
    Agree s₀ t₀ (.error e s) (.error e' t)

variable {s₀ t₀ s t : Session Recorder BufferRef}

/-- requests are counted on both sides -/
theorem Alike.count (h : Alike s₀ t₀ s t) (n : Nat) :
    ∃ k, s.requests + n = s₀.requests + k ∧ t.requests + n = t₀.requests + k := by
  obtain ⟨k, hs, ht⟩ := h.requests
  exact ⟨k + n, by omega, by omega⟩

theorem Alike.isBound (h : Alike s₀ t₀ s t) (name : String) : t.isBound name = s.isBound name := by
  rw [Session.isBound, Session.isBound, NameMap.contains, NameMap.contains, h.bindings, Option.isSome_map]

theorem Alike.isTaken (h : Alike s₀ t₀ s t) (name : String) : t.isTaken name = s.isTaken name := by
  have hbound := h.isBound name
  have hreserved : t.reserved.contains name = s.reserved.contains name := by
    rw [Bool.eq_iff_iff, List.contains_iff_mem, List.contains_iff_mem, h.reserved]
  rw [Session.isBound, Session.isBound] at hbound
  rw [Session.isTaken, Session.isTaken, hbound, hreserved]

/-! ## Sequences -/

namespace Agree

/-- a sequence ends alike if both of its parts do -/
theorem bind {x y k l : SessionM Recorder BufferRef Unit} (h : Agree s₀ t₀ (x s) (y t))
    (hk : ∀ s₁ t₁, x s = .ok () s₁ → y t = .ok () t₁ → Alike s₀ t₀ s₁ t₁ → Agree s₀ t₀ (k s₁) (l t₁)) :
    Agree s₀ t₀ ((do x; k) s) ((do y; l) t) := by
  rw [bind_apply, bind_apply]
  cases hx : x s with
  | error e s₁ =>
    cases hy : y t with
    | error e' t₁ => rw [hx, hy] at h; cases h with | error he h => exact .error he h
    | ok v t₁ => rw [hx, hy] at h; cases h
  | ok u s₁ =>
    cases hy : y t with
    | error e' t₁ => rw [hx, hy] at h; cases h
    | ok v t₁ => rw [hx, hy] at h; cases h with | ok h => exact hk s₁ t₁ hx hy h

/-- what ends with a second step in any case ends alike if both steps do -/
theorem both {x y k l : SessionM Recorder BufferRef Unit} (h : Agree s₀ t₀ (x s) (y t))
    (hk : Alike s₀ t₀ (reached (x s)) (reached (y t)) →
      Agree s₀ t₀ (k (reached (x s))) (l (reached (y t)))) :
    Agree s₀ t₀ (Session.both x k s) (Session.both y l t) := by
  rw [both_apply, both_apply]
  generalize x s = xs at h hk
  generalize y t = yt at h hk
  cases h with
  | ok h => exact hk h
  | error he h =>
    refine .error he ?_
    have hlast := hk h
    simp only [reached_error] at hlast ⊢
    generalize k _ = ks at hlast
    generalize l _ = lt at hlast
    cases hlast with
    | ok h => exact h
    | error he' h => exact h

end Agree

/-! ## Requests -/

/-- a request that the two recorders answer alike -/
theorem Agree.invoke (h : Alike s₀ t₀ s t) {act act' : EStateM Fault Recorder Unit}
    (hact : Recorder.Matched s₀.engine t₀.engine (act s.engine) (act' t.engine)) (p : Primitive) :
    Agree s₀ t₀ (invoke p (Recorder.inWords act) s) (invoke p (Recorder.inWords act') t) := by
  unfold Session.invoke
  rw [Recorder.inWords_apply, Recorder.inWords_apply]
  generalize act s.engine = answer at hact
  generalize act' t.engine = answer' at hact
  cases hact with
  | ok hengine => exact .ok ⟨hengine, h.bindings, h.reserved, h.scratch, h.count 1⟩
  | error fault hengine => exact .error (.engine p fault) ⟨hengine, h.bindings, h.reserved, h.scratch, h.count 1⟩

/-! ## Literals -/

theorem map_literalRefs {r₀ t₀ r t : Recorder} (h : Recorder.Abreast r₀ t₀ r t) (j : Nat) (ls : List Literal) :
    (literalRefs (r.buffers.size + j) ls).map (BufferRef.renumber (r₀.shift t₀)) =
      literalRefs (t.buffers.size + j) ls := by
  induction ls generalizing j with
  | nil => rfl
  | cons l rest ih =>
    rw [literalRefs, List.map_cons, Nat.add_assoc, ih, BufferRef.renumber, h.shift_size]
    rfl

theorem Alike.storing (h : Alike s₀ t₀ s t) (ls : List Literal) : Alike s₀ t₀ (s.storing ls) (t.storing ls) := by
  refine ⟨h.engine.storing ls, h.bindings, h.reserved, ?_, h.count _⟩
  have hnew := map_literalRefs h.engine 0 ls
  rw [Nat.add_zero, Nat.add_zero] at hnew
  rw [Session.storing, Session.storing, h.scratch, List.map_append, hnew]

/-- storing literals looks at no buffer that was there before -/
theorem agree_storeLiterals (h : Alike s₀ t₀ s t) (ls : List Literal) :
    Agree s₀ t₀ (storeLiterals ls s) (storeLiterals ls t) := by
  induction ls generalizing s t with
  | nil => exact .ok h
  | cons l rest ih =>
    rw [storeLiterals, bind_apply, bind_apply]
    rcases literal_cases l s with ⟨ha, hl⟩ | ⟨hf, zeros, hl⟩ | ⟨ha, hf, hl⟩
    · have ha' := (h.engine.refuses .allocate).2 ha
      rcases literal_cases l t with ⟨-, hl'⟩ | ⟨hf', -⟩ | ⟨hno, -⟩
      · rw [hl, hl']
        exact .error (.engine .allocate (.injected .allocate))
          ⟨h.engine, h.bindings, h.reserved, h.scratch, h.count 1⟩
      · cases ha'.unique hf'
      · exact absurd ha' hno
    · have hf' := (h.engine.refuses .fill).2 hf
      rcases literal_cases l t with ⟨ha', -⟩ | ⟨-, zeros', hl'⟩ | ⟨-, hno, -⟩
      · cases ha'.unique hf'
      · rw [hl, hl']
        exact .error (.engine .fill (.injected .fill))
          ⟨h.engine.adding l.kind [] zeros zeros', h.bindings, h.reserved, (h.storing [l]).scratch, h.count 2⟩
      · exact absurd hf' hno
    · rcases literal_cases l t with ⟨ha', -⟩ | ⟨hf', -⟩ | ⟨-, -, hl'⟩
      · exact absurd ((h.engine.refuses .allocate).1 ha') ha
      · exact absurd ((h.engine.refuses .fill).1 hf') hf
      · rw [hl, hl']
        exact ih (h.storing [l])

/-! ## Operations -/

/-- an instruction on buffers that correspond and have the same kind and length on both sides -/
theorem agree_issue (h : Alike s₀ t₀ s t) {i : Instruction BufferRef}
    (hi : ∀ u ∈ i.handles, ∃ p p', s.engine.data? u.id = some p ∧
      t.engine.data? (s₀.engine.shift t₀.engine u.id) = some p' ∧ p.Like p') :
    Agree s₀ t₀ (issue i s) (issue (i.map (BufferRef.renumber (s₀.engine.shift t₀.engine))) t) := by
  cases i with
  | idle => exact .ok h
  | fill u p =>
    obtain ⟨old, old', hold, hold', hlike⟩ := hi u List.mem_cons_self
    exact Agree.invoke h (Recorder.matched_fill h.engine hold hold' hlike ⟨rfl, rfl⟩) .fill
  | copy x y =>
    obtain ⟨source, source', hx, hx', hsource⟩ := hi x List.mem_cons_self
    obtain ⟨target, target', hy, hy', htarget⟩ := hi y (by simp [Instruction.handles])
    exact Agree.invoke h (Recorder.matched_copy h.engine hx hx' hy hy' hsource htarget) .copy
  | compute name k =>
    rw [Instruction.map, issue, issue]
    exact Agree.invoke h (Recorder.matched_compute h.engine k) name

/-- a literal operand has buffers that correspond -/
theorem renumber_ref (h : Alike s₀ t₀ s t) (x : Operand BufferRef) :
    (x.ref s.engine.buffers.size).renumber (s₀.engine.shift t₀.engine) =
      (x.map (BufferRef.renumber (s₀.engine.shift t₀.engine))).ref t.engine.buffers.size := by
  cases x with
  | bound u => rfl
  | literal number l =>
    rw [Operand.ref, BufferRef.renumber, h.engine.shift_size]
    rfl

/-- a fault of a decision mentions no buffer -/
theorem renumbered_of_decision {f : Nat → Nat} {o : Operator} {env : String → Option BufferRef} {op : Operation}
    {e : RunError} (h : (o.decision env op).outcome = .error e) : RunError.Renumbered f e e := by
  rcases fault_of_decision h with hcomplaint | ⟨name, -, rfl⟩
  · refine .other (fun p why he => ?_) hcomplaint.not_isOperation
    rw [he] at hcomplaint
    cases hcomplaint
  · exact .other nofun rfl

variable {failOn : Option String}

/-- an operation decides alike in both sessions, and its request is about buffers of the same kind and length -/
theorem agree_dispatch (hs : Rests failOn s) (ht : Rests failOn t) (h : Alike s₀ t₀ s t) (o : Operator)
    (op : Operation) : Agree s₀ t₀ (dispatch o op s) (dispatch o op t) := by
  have hdecision : o.decision t.bindings.find? op =
      (o.decision s.bindings.find? op).map (BufferRef.renumber (s₀.engine.shift t₀.engine)) := by
    rw [← decision_map (BufferRef.sameView_renumber _), funext h.bindings]
  rw [dispatch_eq, dispatch_eq, hdecision]
  refine (agree_storeLiterals h _).bind fun s₁ t₁ hs₁ ht₁ h₁ => ?_
  rw [bind_apply, bind_apply, Decision.map]
  cases hd : (o.decision s.bindings.find? op).outcome with
  | error e => exact .error (renumbered_of_decision hd) h₁
  | ok i =>
    have hd' : (o.decision t.bindings.find? op).outcome =
        .ok (i.map (Operand.map (BufferRef.renumber (s₀.engine.shift t₀.engine)))) := by
      rw [hdecision, Decision.map, hd]
      rfl
    obtain rfl := eq_storing_of_ok hs₁
    obtain rfl := eq_storing_of_ok ht₁
    have hmap : (i.map (Operand.map (BufferRef.renumber (s₀.engine.shift t₀.engine)))).map
        (Operand.ref t.engine.buffers.size) =
        (i.map (Operand.ref s.engine.buffers.size)).map (BufferRef.renumber (s₀.engine.shift t₀.engine)) := by
      rw [Instruction.map_map, Instruction.map_map]
      exact congrArg (Instruction.map · i) (funext fun x => (renumber_ref h x).symm)
    dsimp only [Except.map, decided, pure_apply]
    rw [hmap]
    refine agree_issue h₁ fun u hu => ?_
    -- the operand is known on both sides, with one kind and one shape
    rw [Instruction.handles_map] at hu
    obtain ⟨x, hx, rfl⟩ := List.mem_map.1 hu
    have hx' : x.map (BufferRef.renumber (s₀.engine.shift t₀.engine)) ∈
        (i.map (Operand.map (BufferRef.renumber (s₀.engine.shift t₀.engine)))).handles := by
      rw [Instruction.handles_map]
      exact List.mem_map_of_mem hx
    have hfound := found_of_decision hd x hx
    have hfound' := found_of_decision hd' _ hx'
    rw [hdecision] at hfound'
    obtain ⟨p, hp, hkind, hlength⟩ := contents_of_found hs hfound
    obtain ⟨p', hp', hkind', hlength'⟩ := contents_of_found ht hfound'
    have hview := Operand.sameView_map (BufferRef.sameView_renumber (s₀.engine.shift t₀.engine))
    rw [← renumber_ref h x] at hp'
    refine ⟨p, p', hp, hp', ?_, ?_⟩
    · rw [hkind', hkind, hview.kind]
    · rw [hlength', hlength, hview.volume]

omit s₀ t₀ in
/-- scratch tensors are held, so they are live and all different -/
theorem live_scratch (hs : Safe (Recorder.custody failOn) s) :
    (∀ u ∈ s.scratch, (s.engine.data? u.id).isSome) ∧ (s.scratch.map BufferRef.id).Nodup := by
  have hcoupled : Coupled failOn s.held s.engine := hs
  refine ⟨fun u hu => ?_, ?_⟩
  · obtain ⟨p, hp, -⟩ := hcoupled.live u (List.mem_append_right _ hu)
    rw [hp]
    rfl
  · exact hcoupled.distinct.sublist ((List.sublist_append_right _ _).map _)

/-- scratch tensors are all released on both sides, or on none -/
theorem agree_releaseScratch (hs : Safe (Recorder.custody failOn) s) (ht : Safe (Recorder.custody failOn) t)
    (h : Alike s₀ t₀ s t) : Agree s₀ t₀ (releaseScratch s) (releaseScratch t) := by
  have hlen : t.scratch.length = s.scratch.length := by rw [h.scratch, List.length_map]
  have hids : t.scratch.map BufferRef.id = (s.scratch.map BufferRef.id).map (s₀.engine.shift t₀.engine) := by
    rw [h.scratch, List.map_map, List.map_map]
    rfl
  unfold releaseScratch
  by_cases hr : s.engine.Refuses .release
  · have hr' := (h.engine.refuses .release).2 hr
    rw [releaseAll_of_refusing (s := { s with scratch := [] }) hr,
      releaseAll_of_refusing (s := { t with scratch := [] }) hr', h.scratch]
    simp only [List.map_eq_nil_iff, List.length_map]
    split
    · exact .ok ⟨h.engine, h.bindings, h.reserved, rfl, h.requests⟩
    · exact .error (.engine .release (.injected .release)) ⟨h.engine, h.bindings, h.reserved, rfl, h.count _⟩
  · have hr' : ¬ t.engine.Refuses .release := fun ht => hr ((h.engine.refuses .release).1 ht)
    obtain ⟨hlive, hnodup⟩ := live_scratch hs
    obtain ⟨hlive', hnodup'⟩ := live_scratch ht
    rw [releaseAll_of_live (s := { s with scratch := [] }) hr hlive hnodup,
      releaseAll_of_live (s := { t with scratch := [] }) hr' hlive' hnodup', hids, hlen]
    exact .ok ⟨h.engine.releasing _, h.bindings, h.reserved, rfl, h.count _⟩

theorem agree_perform (hs : Rests failOn s) (ht : Rests failOn t) (h : Alike s₀ t₀ s t) (o : Operator)
    (op : Operation) : Agree s₀ t₀ (perform o op s) (perform o op t) := by
  unfold perform
  split
  · exact (agree_dispatch hs ht h o op).both fun h =>
      agree_releaseScratch (dispatch_keeps _ o op hs.safe).1 (dispatch_keeps _ o op ht.safe).1 h
  · exact .error (.other nofun rfl) h

theorem agree_runOperation (hs : Rests failOn s) (ht : Rests failOn t) (h : Alike s₀ t₀ s t) (index : Nat)
    (op : Operation) : Agree s₀ t₀ (runOperation index op s) (runOperation index op t) := by
  have hop : Agree s₀ t₀ (performNamed op s) (performNamed op t) := by
    unfold performNamed
    cases Operator.named? op.name with
    | none => exact .error (.other nofun rfl) h
    | some r => exact agree_perform hs ht h r.operator op
  unfold runOperation
  generalize performNamed op s = answer at hop
  generalize performNamed op t = answer' at hop
  cases hop with
  | ok h => exact .ok h
  | error he h => exact .error (.operation index op.name he) h

theorem agree_runFrom (hs : Rests failOn s) (ht : Rests failOn t) (h : Alike s₀ t₀ s t) (index : Nat)
    (ops : List Operation) : Agree s₀ t₀ (runFrom index ops s) (runFrom index ops t) := by
  have hinv := invariant_atRest (Recorder.custody failOn)
  induction ops generalizing index s t with
  | nil => exact .ok h
  | cons op rest ih =>
    refine (agree_runOperation hs ht h index op).bind fun s₁ t₁ hs₁ ht₁ h₁ => ?_
    have hrest := keeps_runOperation hinv.perform index op s hs
    have hrest' := keeps_runOperation hinv.perform index op t ht
    rw [hs₁, reached_ok] at hrest
    rw [ht₁, reached_ok] at hrest'
    exact ih hrest hrest' h₁ (index + 1)

/-! ## Preparation -/

theorem agree_bindTensor (h : Alike s₀ t₀ s t) {u v : Tensor} (huv : u.Like v) :
    Agree s₀ t₀ (bindTensor u s) (bindTensor v t) := by
  unfold bindTensor
  rw [h.isTaken, huv.name, huv.kind, huv.shape]
  split
  · exact .error (.other nofun rfl) h
  split
  · exact .error (.other nofun rfl) h
  rename_i hkind
  have hconcrete : u.kind.isConcrete = true := by simpa using hkind
  unfold invoke
  rw [Recorder.engine_allocate, Recorder.inWords_apply, Recorder.inWords_apply]
  rcases Recorder.allocate_cases hconcrete u.shape s.engine with ⟨hr, ha⟩ | ⟨hr, zeros, ha⟩
  · rw [ha, Recorder.allocate_refused ((h.engine.refuses .allocate).2 hr)]
    exact .error (.engine .allocate (.injected .allocate))
      ⟨h.engine, h.bindings, h.reserved, h.scratch, h.count 1⟩
  · rcases Recorder.allocate_cases hconcrete u.shape t.engine with ⟨hr', -⟩ | ⟨-, zeros', ha'⟩
    · exact absurd ((h.engine.refuses .allocate).1 hr') hr
    · rw [ha, ha']
      refine .ok ⟨h.engine.adding u.kind u.shape zeros zeros', fun name => ?_, h.reserved, h.scratch, h.count 1⟩
      have hsize := h.engine.shift_size 0
      rw [Nat.add_zero, Nat.add_zero] at hsize
      rw [NameMap.find?_insert, NameMap.find?_insert, h.bindings]
      split
      · rw [Option.map_some, BufferRef.renumber, hsize]
      · rfl

theorem agree_store (hs : Rests failOn s) (ht : Rests failOn t) (h : Alike s₀ t₀ s t) {u v : Tensor} (huv : u.Like v) :
    Agree s₀ t₀ (store u s) (store v t) := by
  have hdata := huv.data
  rw [store_apply, store_apply, huv.name, h.bindings]
  generalize u.data = p at hdata
  generalize v.data = q at hdata
  cases hdata with
  | none => exact .error (.other nofun rfl) h
  | some hlike =>
    cases hb : s.bindings.find? u.name with
    | none => exact .error (.other nofun rfl) h
    | some b =>
      have hb' : t.bindings.find? u.name = some (b.renumber (s₀.engine.shift t₀.engine)) := by
        rw [h.bindings, hb]
        rfl
      obtain ⟨old, hold, hkind, hlength⟩ := hs.live hb
      obtain ⟨old', hold', hkind', hlength'⟩ := ht.live hb'
      exact Agree.invoke h (Recorder.matched_fill h.engine hold hold'
        ⟨hkind'.trans hkind.symm, hlength'.trans hlength.symm⟩ hlike) .fill

theorem agree_prepare (hs : Rests failOn s) (ht : Rests failOn t) (h : Alike s₀ t₀ s t) (key : String) {u v : Tensor}
    (huv : u.Like v) : Agree s₀ t₀ (prepare key u s) (prepare key v t) := by
  have hsome : v.data.isSome = u.data.isSome := by
    have hdata := huv.data
    generalize u.data = p at hdata
    generalize v.data = q at hdata
    cases hdata <;> rfl
  unfold prepare
  rw [h.isBound, hsome]
  split
  · exact .ok h
  · refine (agree_bindTensor h huv).bind fun s₁ t₁ hs₁ ht₁ h₁ => ?_
    split
    · have hrest := bindTensor_keeps _ u s hs
      have hrest' := bindTensor_keeps _ v t ht
      rw [hs₁, reached_ok] at hrest
      rw [ht₁, reached_ok] at hrest'
      exact agree_store hrest hrest' h₁ huv
    · exact .ok h₁

theorem agree_materialize (hs : Rests failOn s) (ht : Rests failOn t) (h : Alike s₀ t₀ s t)
    {entries entries' : List (String × Tensor)}
    (he : List.Forall₂ (fun e e' : String × Tensor => e'.1 = e.1 ∧ e.2.Like e'.2) entries entries') :
    Agree s₀ t₀ (materialize entries s) (materialize entries' t) := by
  have hinv := invariant_atRest (Recorder.custody failOn)
  induction he generalizing s t with
  | nil => exact .ok h
  | @cons e e' rest rest' hfirst _ ih =>
    obtain ⟨key, u⟩ := e
    obtain ⟨key', v⟩ := e'
    obtain ⟨rfl, huv⟩ : key' = key ∧ u.Like v := hfirst
    refine (agree_prepare hs ht h key' huv).bind fun s₁ t₁ hs₁ ht₁ h₁ => ?_
    have hrest := keeps_prepare hinv.bindTensor hinv.store key' u s hs
    have hrest' := keeps_prepare hinv.bindTensor hinv.store key' v t ht
    rw [hs₁, reached_ok] at hrest
    rw [ht₁, reached_ok] at hrest'
    exact ih hrest hrest' h₁

/-! ## Runs -/

/-- sessions between two steps that know the same names -/
theorem Alike.start (hs : Rests failOn s) (ht : Rests failOn t)
    (hbindings : ∀ name, t.bindings.find? name = s.bindings.find? name)
    (hreserved : ∀ name, name ∈ t.reserved ↔ name ∈ s.reserved) : Alike s t s t where
  engine := ⟨ht.coupled.failOn_eq.trans hs.coupled.failOn_eq.symm, ⟨0, rfl, rfl⟩, [], by simp, by simp⟩
  bindings name := by
    rw [hbindings]
    cases hb : s.bindings.find? name with
    | none => rfl
    | some u =>
      obtain ⟨p, hp, -⟩ := hs.live hb
      rw [Option.map_some, BufferRef.renumber, Recorder.shift_of_lt (Recorder.lt_size_of_data? hp)]
  reserved := hreserved
  scratch := by
    rw [hs.scratch, ht.scratch]
    rfl
  requests := ⟨0, rfl, rfl⟩

theorem agree_prepareAll (hs : Rests failOn s) (ht : Rests failOn t) (h : Alike s₀ t₀ s t) (options : RunOptions)
    {g g' : Graph} (hg : g.Like g') : Agree s₀ t₀ (prepareAll options g s) (prepareAll options g' t) := by
  unfold prepareAll
  split
  · exact agree_materialize hs ht h hg.tensors
  · exact .ok h

/-- runs that end alike, with figures that only differ in times -/
inductive RunsAgree (s₀ t₀ : Session Recorder BufferRef) :
    EStateM.Result RunError (Session Recorder BufferRef) RunStatistics →
      EStateM.Result RunError (Session Recorder BufferRef) RunStatistics → Prop
  | ok {s t : Session Recorder BufferRef} {figures figures' : RunStatistics}
    (hexecuted : figures'.operationsExecuted = figures.operationsExecuted)
    (hrequests : figures'.requests = figures.requests) (hcount : ∀ name, figures'.count name = figures.count name)
    (h : Alike s₀ t₀ s t) : RunsAgree s₀ t₀ (.ok figures s) (.ok figures' t)
  | error {s t : Session Recorder BufferRef} {e e' : RunError}
    (he : RunError.Renumbered (s₀.engine.shift t₀.engine) e e') (h : Alike s₀ t₀ s t) :
    RunsAgree s₀ t₀ (.error e s) (.error e' t)

theorem agree_runGraph (hs : Rests failOn s) (ht : Rests failOn t) (h : Alike s t s t) (options : RunOptions)
    (clock clock' : Clock) {g g' : Graph} (hg : g.Like g') :
    RunsAgree s t (runGraph options clock g s) (runGraph options clock' g' t) := by
  have hinv := invariant_atRest (Recorder.custody failOn)
  have hprep := agree_prepareAll hs ht h options hg
  have hrest := hinv.prepareAll options g s hs
  have hrest' := hinv.prepareAll options g' t ht
  rw [runGraph_eq, runGraph_eq, hg.operations]
  generalize prepareAll options g s = answer at hprep hrest
  generalize prepareAll options g' t = answer' at hprep hrest'
  cases hprep with
  | error he h => exact .error he h
  | @ok s₁ t₁ h =>
    have hops := agree_runFrom hrest hrest' h 0 g.operations
    dsimp only
    simp only [reached_ok] at hops
    generalize runFrom 0 g.operations s₁ = answer at hops
    generalize runFrom 0 g.operations t₁ = answer' at hops
    cases hops with
    | error he h => exact .error he h
    | ok h =>
      obtain ⟨k, hk, hk'⟩ := h.requests
      refine .ok ?_ ?_ (fun name => ?_) h
      · rw [RunStatistics.ofRun_executed, RunStatistics.ofRun_executed]
      · simp only [RunStatistics.ofRun]
        omega
      · rw [RunStatistics.ofRun_count, RunStatistics.ofRun_count]

/-! ## Scratch tensors -/

theorem mem_literalCalls {first : Nat} {ls : List Literal} {id : Nat} {kind : ElementKind} {shape : List Nat}
    (h : .allocate id kind shape ∈ literalCalls first ls) : shape = [] ∧ id ∈ List.range' first ls.length := by
  induction ls generalizing first with
  | nil => cases h
  | cons l rest ih =>
    rw [List.length_cons, List.range'_succ]
    rcases List.mem_cons.1 h with h | h
    · cases h
      exact ⟨rfl, List.mem_cons_self⟩
    rcases List.mem_cons.1 h with h | h
    · cases h
    · exact ⟨(ih h).1, List.mem_cons_of_mem _ (ih h).2⟩

/-- calls that allocate nothing but tensors of one element, and release them again -/
def OnlyScratch (calls : List Call) : Prop :=
  ∀ id kind shape, .allocate id kind shape ∈ calls → shape = [] ∧ .release id ∈ calls

theorem OnlyScratch.append {calls calls' : List Call} (h : OnlyScratch calls) (h' : OnlyScratch calls') :
    OnlyScratch (calls ++ calls') := by
  intro id kind shape hmem
  rcases List.mem_append.1 hmem with hmem | hmem
  · exact ⟨(h id kind shape hmem).1, List.mem_append_left _ (h id kind shape hmem).2⟩
  · exact ⟨(h' id kind shape hmem).1, List.mem_append_right _ (h' id kind shape hmem).2⟩

theorem onlyScratch_calls (i : Instruction BufferRef) : OnlyScratch i.calls := by
  intro id kind shape hmem
  cases i <;> simp [Instruction.calls] at hmem

theorem onlyScratch_perform (hscratch : s.scratch = []) {o : Operator} {op : Operation} {u : Unit}
    {s' : Session Recorder BufferRef} (h : perform o op s = .ok u s') :
    ∃ calls, s'.engine.log.toList = s.engine.log.toList ++ calls ∧ OnlyScratch calls := by
  by_cases hr : s.engine.Refuses .release
  · rcases perform_of_refusing o op hscratch hr with ⟨s₁, i, -, hengine, hok⟩ | ⟨e, s₁, stored, herror, -⟩
    · by_cases hls : o.literals op = []
      · rw [if_pos hls, h] at hok
        cases hok
        refine ⟨_, ?_, onlyScratch_calls (i.map (Operand.ref s.engine.buffers.size))⟩
        rw [hengine, log_following, hls, literalCalls, List.append_nil]
      · rw [if_neg hls, h] at hok
        cases hok
    · rw [h] at herror
      cases herror
  · rcases perform_of_releasing o op hscratch hr with ⟨i, -, -, -, hok⟩ | ⟨e, s₁, stored, herror, -⟩
    · rw [h] at hok
      cases hok
      refine ⟨literalCalls s.engine.buffers.size (o.literals op) ++ ((i.map (Operand.ref s.engine.buffers.size)).calls ++
        (List.range' s.engine.buffers.size (o.literals op).length).map Call.release), ?_, fun id kind shape hmem => ?_⟩
      · rw [performed, Recorder.log_releasing, log_following, List.append_assoc, List.append_assoc]
      · rcases List.mem_append.1 hmem with hmem | hmem
        · obtain ⟨hshape, hid⟩ := mem_literalCalls hmem
          exact ⟨hshape, List.mem_append_right _ (List.mem_append_right _ (List.mem_map_of_mem hid))⟩
        · rcases List.mem_append.1 hmem with hmem | hmem
          · obtain ⟨hshape, hrelease⟩ := onlyScratch_calls _ id kind shape hmem
            exact ⟨hshape, List.mem_append_right _ (List.mem_append_left _ hrelease)⟩
          · obtain ⟨j, -, hj⟩ := List.mem_map.1 hmem
            cases hj
    · rw [h] at herror
      cases herror

/-- operations that go well allocate scratch tensors only -/
theorem onlyScratch_runFrom (hs : Rests failOn s) {index : Nat} {ops : List Operation} {u : Unit}
    {s' : Session Recorder BufferRef} (h : runFrom index ops s = .ok u s') :
    ∃ calls, s'.engine.log.toList = s.engine.log.toList ++ calls ∧ OnlyScratch calls := by
  have hinv := invariant_atRest (Recorder.custody failOn)
  induction ops generalizing index s with
  | nil => cases h; exact ⟨[], (List.append_nil _).symm, fun _ _ _ hmem => nomatch hmem⟩
  | cons op rest ih =>
    obtain ⟨s₁, hop, hrest⟩ := runFrom_cons_ok h
    have hs₁ := keeps_performNamed hinv.perform op s hs
    rw [hop, reached_ok] at hs₁
    obtain ⟨calls, hlog, hcalls⟩ : ∃ calls, s₁.engine.log.toList = s.engine.log.toList ++ calls ∧ OnlyScratch calls := by
      unfold performNamed at hop
      cases hr : Operator.named? op.name with
      | none => rw [hr] at hop; cases hop
      | some r => rw [hr] at hop; exact onlyScratch_perform hs.scratch hop
    obtain ⟨calls', hlog', hcalls'⟩ := ih hs₁ hrest
    exact ⟨calls ++ calls', by rw [hlog', hlog, List.append_assoc], hcalls.append hcalls'⟩

/-! ## Main result -/

/-- a run that went well goes well again, and its operations ask for the same -/
theorem run_again (hs : Rests failOn s) {options : RunOptions} {clock : Clock} {g : Graph} (hg : g.KeepsOwnNames)
    {figures : RunStatistics} {s₁ : Session Recorder BufferRef} (h : runGraph options clock g s = .ok figures s₁)
    (clock' : Clock) :
    ∃ calls figures' s₂, s₁.engine.log.toList = (reached (prepareAll options g s)).engine.log.toList ++ calls ∧
      runGraph options clock' g s₁ = .ok figures' s₂ ∧ s₂.bindings = s₁.bindings ∧
      s₂.engine.log.toList = s₁.engine.log.toList ++
        calls.map (Call.renumber ((reached (prepareAll options g s)).engine.shift s₁.engine)) ∧
      OnlyScratch (calls.map (Call.renumber ((reached (prepareAll options g s)).engine.shift s₁.engine))) := by
  have hinv := invariant_atRest (Recorder.custody failOn)
  obtain ⟨s', hprep, hops, -⟩ := runGraph_ok h
  have hrest' := hinv.prepareAll options g s hs
  have hrest₁ := keeps_runFrom hinv.perform 0 g.operations s' (by rwa [hprep, reached_ok] at hrest')
  rw [hprep, reached_ok] at hrest' ⊢
  rw [hops, reached_ok] at hrest₁
  have hnames := keeps_runFrom (P := fun u => u.bindings = s'.bindings ∧ u.reserved = s'.reserved)
    (fun o op u hu => ⟨(perform_names o op u).1.trans hu.1, (perform_names o op u).2.trans hu.2⟩) 0 g.operations s'
    ⟨rfl, rfl⟩
  rw [hops, reached_ok] at hnames
  -- what the operations left knows the same names as what they started from
  have halike : Alike s' s₁ s' s₁ :=
    .start hrest' hrest₁ (fun name => by rw [hnames.1]) fun name => by rw [hnames.2]
  have hagree := agree_runFrom hrest' hrest₁ halike 0 g.operations
  rw [hops] at hagree
  cases hagain : runFrom 0 g.operations s₁ with
  | error e s₂ => rw [hagain] at hagree; cases hagree
  | ok v s₂ =>
    rw [hagain] at hagree
    cases hagree with
    | ok h₂ =>
      obtain ⟨calls, hcalls, hcalls'⟩ := h₂.engine.logs
      obtain ⟨calls', hlog, hscratch⟩ := onlyScratch_runFrom hrest₁ hagain
      have hbindings := bindings_runFrom 0 g.operations s₁
      rw [hagain, reached_ok] at hbindings
      refine ⟨calls, _, s₂, hcalls, runGraph_of_ok (prepareAll_again hg hprep hops) hagain clock', hbindings, hcalls',
        ?_⟩
      rwa [List.append_cancel_left (hcalls'.symm.trans hlog)]

/-- **A run depends on names, kinds and shapes only.** Take two sessions on recorders, whatever their histories, with the
same primitive that always fails, that know the same names, for the same handles. Their recorders may have given out
different numbers of buffers, and the buffers may hold anything. Take two graphs that differ at most in the elements of
payloads. Then the runs of the graphs ask for the same, in the same order, and both go well, with the same figures but
for times, or both fail, with the same fault. In all this the numbers of new buffers, and only these, differ by a
constant, also where a text of the engine mentions them.

A run of a graph that keeps its own names, made again where it just went well, goes well. It binds nothing, allocates
nothing but scratch tensors, and asks for what the operations of the first run asked for, up to the numbers of those. -/
theorem run_depends_on_names (failOn : Option String) {history history' : List Step}
    (hbindings : ∀ name, ((fresh failOn).after history').bindings.find? name =
      ((fresh failOn).after history).bindings.find? name)
    (hreserved : ∀ name, name ∈ ((fresh failOn).after history').reserved ↔
      name ∈ ((fresh failOn).after history).reserved)
    {g g' : Graph} (hg : g.Like g') (options : RunOptions) (clock clock' : Clock) :
    let s := (fresh failOn).after history
    let t := (fresh failOn).after history'
    let run := runGraph options clock g s
    let run' := runGraph options clock' g' t
    (∃ calls, (reached run).engine.log.toList = s.engine.log.toList ++ calls ∧
      (reached run').engine.log.toList =
        t.engine.log.toList ++ calls.map (Call.renumber (s.engine.shift t.engine))) ∧
    (match run, run' with
      | .ok figures _, .ok figures' _ => figures'.operationsExecuted = figures.operationsExecuted ∧
          figures'.requests = figures.requests ∧ ∀ name, figures'.count name = figures.count name
      | .error e _, .error e' _ => RunError.Renumbered (s.engine.shift t.engine) e e'
      | _, _ => False) ∧
    (g.KeepsOwnNames → ∀ figures s₁, run = .ok figures s₁ → ∃ calls figures' s₂,
      s₁.engine.log.toList = (reached (prepareAll options g s)).engine.log.toList ++ calls ∧
      runGraph options clock' g s₁ = .ok figures' s₂ ∧ s₂.bindings = s₁.bindings ∧
      s₂.engine.log.toList = s₁.engine.log.toList ++
        calls.map (Call.renumber ((reached (prepareAll options g s)).engine.shift s₁.engine)) ∧
      OnlyScratch (calls.map (Call.renumber ((reached (prepareAll options g s)).engine.shift s₁.engine)))) := by
  intro s t run run'
  have hs : Rests failOn s := after_atRest _ (coupled_fresh failOn) history
  have ht : Rests failOn t := after_atRest _ (coupled_fresh failOn) history'
  have hagree : RunsAgree s t run run' :=
    agree_runGraph hs ht (.start hs ht hbindings hreserved) options clock clock' hg
  have hagain := fun hown figures s₁ (h : run = .ok figures s₁) => run_again hs hown h clock'
  refine ⟨?_, ?_, hagain⟩ <;> clear_value run run'
  · cases hagree with
    | ok _ _ _ h => exact h.engine.logs
    | error _ h => exact h.engine.logs
  · cases hagree with
    | ok hexecuted hrequests hcount _ => exact ⟨hexecuted, hrequests, hcount⟩
    | error he _ => exact he

/-- two sessions, one of which stored and computed before, and two payloads; the last operation fails in both -/
theorem run_depends_on_names_apart :
    let x : Tensor := ⟨"x", .integer, [2], none⟩
    let add := (((Operation.named "add" .integer).withInput "x" (.identifier "x")).withInput "y" (.integer 3)).withOutput
      "z" (.identifier "x")
    let reshape := ((Operation.named "reshape" .integer).withInput "input" (.integer 3)).withOutput "output"
      (.identifier "x")
    let history : List Step := [.create x]
    let history' : List Step := [.create x, .write { x with data := some (.integer [7, 8]) },
      .perform (.binary .float .add) add]
    let graph := fun n : Int64 =>
      (⟨"g", [add, reshape], .ofList [("p", ⟨"p", .integer, [], some (.integer [n])⟩)]⟩ : Graph)
    (∀ name, ((fresh none).after history').bindings.find? name = ((fresh none).after history).bindings.find? name) ∧
      (∀ name, name ∈ ((fresh none).after history').reserved ↔ name ∈ ((fresh none).after history).reserved) ∧
      (graph 1).Like (graph 2) ∧
      (reached (runGraph default Clock.still (graph 1) ((fresh none).after history))).engine.log.toList =
        ((fresh none).after history).engine.log.toList ++
          [.allocate 1 .integer [], .fill 1, .allocate 2 .integer [], .fill 2, .compute (.binary .add .float 0 2 0),
            .release 2, .allocate 3 .integer [], .fill 3, .release 3] ∧
      (reached (runGraph default Clock.still (graph 2) ((fresh none).after history'))).engine.log.toList =
        ((fresh none).after history').engine.log.toList ++
          [.allocate 2 .integer [], .fill 2, .allocate 3 .integer [], .fill 3, .compute (.binary .add .float 0 3 0),
            .release 3, .allocate 4 .integer [], .fill 4, .release 4] := by
  intro x add reshape history history' graph
  have hbindings : ((fresh none).after history').bindings = ((fresh none).after history).bindings := by decide +kernel
  have hreserved : ((fresh none).after history').reserved = ((fresh none).after history).reserved := by decide +kernel
  have hlike : (graph 1).Like (graph 2) := ⟨rfl, .cons ⟨rfl, rfl, rfl, rfl, .some ⟨rfl, rfl⟩⟩ .nil⟩
  have hlog : (reached (runGraph default Clock.still (graph 1) ((fresh none).after history))).engine.log.toList =
      ((fresh none).after history).engine.log.toList ++
        [.allocate 1 .integer [], .fill 1, .allocate 2 .integer [], .fill 2, .compute (.binary .add .float 0 2 0),
          .release 2, .allocate 3 .integer [], .fill 3, .release 3] := by decide +kernel
  have hsizes : ((fresh none).after history).engine.buffers.size = 1 ∧
      ((fresh none).after history').engine.buffers.size = 2 := by decide +kernel
  have hnames : ∀ name, ((fresh none).after history').bindings.find? name =
      ((fresh none).after history).bindings.find? name := fun name => by rw [hbindings]
  have hnames' : ∀ name, name ∈ ((fresh none).after history').reserved ↔
      name ∈ ((fresh none).after history).reserved := fun name => by rw [hreserved]
  obtain ⟨⟨calls, hcalls, hcalls'⟩, -⟩ :=
    run_depends_on_names none hnames hnames' hlike default Clock.still Clock.still
  obtain rfl := List.append_cancel_left (hcalls.symm.trans hlog)
  refine ⟨hnames, hnames', hlike, hlog, hcalls'.trans ?_⟩
  simp [Call.renumber, Recorder.shift, Kernel.map, hsizes]

end Session

end TensorGraph
