/-
A session on a recorder is a store of named tensors.

Model: `Session.view` forgets handles, buffers, the log and all counts, and keeps the kind, the shape and the contents
of each bound tensor. Distinct names have distinct live buffers (`Coupled`), so what is written under one name is seen
under no other, and scratch tensors are seen under none.

Main result: `view_after`.
-/
import TensorGraph.Proofs.Agreement
import TensorGraph.Proofs.Atomicity
import TensorGraph.Proofs.Erasure
import TensorGraph.Proofs.Store

namespace TensorGraph

/-! ## Model -/

/-- what is known about the tensor of a handle -/
def Recorder.entry (r : Recorder) (t : BufferRef) : Entry := ⟨t.kind, t.shape, (r.data? t.id).getD default⟩

namespace Session

/-- a session seen as a store -/
def view (s : Session Recorder BufferRef) : Store := ⟨s.bindings.map s.engine.entry, s.reserved⟩

/-- what a step came to, seen in a store -/
def observe {α β : Type} (f : α → β) : EStateM.Result RunError (Session Recorder BufferRef) α →
    EStateM.Result Unit Store β
  | .ok a s => .ok (f a) s.view
  | .error _ s => .error () s.view

end Session

/-- the tensor in an answer -/
def Answer.tensor? : Answer → Option Tensor
  | .tensor t => some t
  | _ => none

/-! ## Views -/

theorem Recorder.sameView_entry (r : Recorder) : SameView r.entry where
  kind _ := rfl
  shape _ := rfl

namespace Session

variable {s s' : Session Recorder BufferRef}

/-- a view only depends on names and on the contents of bound buffers -/
theorem view_congr (hb : s'.bindings = s.bindings) (hr : s'.reserved = s.reserved)
    (hd : ∀ t ∈ s.bindings.values, s'.engine.data? t.id = s.engine.data? t.id) : s'.view = s.view := by
  unfold view
  rw [hb, hr]
  congr 1
  refine NameMap.map_congr fun t ht => ?_
  rw [Recorder.entry, Recorder.entry, hd t ht]

theorem find?_view (s : Session Recorder BufferRef) (name : String) :
    s.view.entries.find? name = (s.bindings.find? name).map s.engine.entry := NameMap.find?_map ..

theorem contains_view (s : Session Recorder BufferRef) (name : String) :
    s.view.entries.contains name = s.bindings.contains name := NameMap.contains_map ..

/-- other contents in the buffer of one name are seen under this name and no other -/
theorem view_of_written (h : Rests none s) {name : String} {t : BufferRef} (ht : s.bindings.find? name = some t)
    {p : Payload} (hb : s'.bindings = s.bindings) (hr : s'.reserved = s.reserved)
    (hd : ∀ u ∈ s.bindings.values, s'.engine.data? u.id = if t.id = u.id then some p else s.engine.data? u.id) :
    s'.view = s.view.put (.identifier name) p := by
  have hdistinct : (s.bindings.values.map BufferRef.id).Nodup :=
    (List.nodup_append.1 (List.map_append ▸ h.coupled.distinct)).1
  unfold view Store.put
  rw [hb, hr]
  congr 1
  refine NameMap.ext_find? fun name' => ?_
  rw [← NameMap.insert_eq_modify ((NameMap.find?_map ..).trans (congrArg _ ht)), NameMap.find?_insert,
    NameMap.find?_map, NameMap.find?_map]
  by_cases hn : name' = name
  · rw [if_pos hn, hn, ht]
    simp [Recorder.entry, hd t (NameMap.mem_values_of_find? ht)]
  · rw [if_neg hn]
    cases hu : s.bindings.find? name' with
    | none => rfl
    | some u =>
      have hne : t.id ≠ u.id := fun hid => hn (NameMap.eq_of_nodup_values hdistinct ht hu hid).symm
      simp [Recorder.entry, hd u (NameMap.mem_values_of_find? hu), hne]

/-! ## Named tensors -/

theorem observe_bindTensor (h : Rests none s) (t : Tensor) :
    observe id (bindTensor t s) = Store.create t s.view := by
  have htaken : s.isTaken t.name = true ↔ s.view.entries.contains t.name = true ∨ t.name ∈ s.view.reserved := by
    rw [contains_view, isTaken, Bool.or_eq_true, List.contains_iff_mem]
    rfl
  have hblank : Store.blank? t = Payload.zeros t.kind (volume t.shape) := (Payload.zeros_eq_ofElements? _ _).symm
  unfold Store.create
  rw [hblank]
  rcases bindTensor_cases t s with ⟨hold, hb⟩ | ⟨hnew, hkind, hb⟩ | ⟨hnew, hkind, ⟨why, r, hal, hb⟩ | ⟨u, r, hal, hb⟩⟩
  · rw [hb, if_pos (htaken.1 hold)]
    rfl
  · rw [hb, if_neg (fun hold => by rw [htaken.2 hold] at hnew; cases hnew)]
    have hz : Payload.zeros t.kind (volume t.shape) = none := by
      cases hk : t.kind <;> first | rfl | (rw [hk] at hkind; cases hkind)
    rw [hz]
    rfl
  · obtain ⟨zeros, hz, -⟩ := Recorder.exists_zeros hkind (volume t.shape)
    rw [Recorder.engine_allocate, Recorder.inWords_apply, Recorder.allocate_apply (h.serves _) hz] at hal
    cases hal
  · obtain ⟨zeros, hz, -⟩ := Recorder.exists_zeros hkind (volume t.shape)
    rw [Recorder.engine_allocate, Recorder.inWords_apply, Recorder.allocate_apply (h.serves _) hz] at hal
    cases hal
    rw [hb, if_neg (fun hold => by rw [htaken.2 hold] at hnew; cases hnew), hz]
    have hold : s.bindings.map (s.engine.adding t.kind t.shape zeros).entry = s.bindings.map s.engine.entry := by
      refine NameMap.map_congr fun u hu => ?_
      have hlt := h.lt_size hu
      rw [Recorder.entry, Recorder.entry, Recorder.data?_adding, if_neg (Nat.ne_of_lt hlt)]
    have hnewEntry : (s.engine.adding t.kind t.shape zeros).entry ⟨s.engine.buffers.size, t.kind, t.shape⟩ =
        ⟨t.kind, t.shape, zeros⟩ := by
      rw [Recorder.entry, Recorder.data?_adding, if_pos rfl]
      rfl
    simp only [observe, view, id_eq, NameMap.map_insert, hold, hnewEntry]

theorem observe_store (h : Rests none s) (t : Tensor) : observe id (store t s) = Store.write t s.view := by
  rw [store_apply]
  unfold Store.write
  rw [find?_view]
  cases t.data with
  | none => rfl
  | some p =>
    cases hf : s.bindings.find? t.name with
    | none => rfl
    | some u =>
      obtain ⟨old, hold, hkind, hlen⟩ := h.live hf
      dsimp only [Option.map_some]
      unfold invoke
      rw [Recorder.engine_fill, Recorder.inWords_apply, Recorder.fill_apply (h.serves _) hold]
      have hfits : Recorder.fits old p = true ↔
          p.kind = (s.engine.entry u).kind ∧ p.length = volume (s.engine.entry u).shape := by
        rw [Recorder.fits_iff, hkind, hlen]
        exact and_congr eq_comm eq_comm
      by_cases hp : p.kind = (s.engine.entry u).kind ∧ p.length = volume (s.engine.entry u).shape
      · rw [if_pos (hfits.2 hp), if_pos hp]
        have hview : Session.view { s with
            engine := s.engine.setting u.id (some p) (.fill u.id), requests := s.requests + 1 } =
            s.view.put (.identifier t.name) p :=
          view_of_written h hf rfl rfl fun v _ => Recorder.data?_setting_of_some hold _ _ _
        have hentry : s.view.entries.find? t.name = some (s.engine.entry u) := by
          rw [find?_view, hf]
          rfl
        dsimp only [observe]
        rw [hview, Store.put, ← NameMap.insert_eq_modify hentry fun e => { e with data := p }]
      · rw [if_neg fun hp' => hp (hfits.1 hp'), if_neg hp]
        rfl

theorem observe_load (h : Rests none s) (t : Tensor) : observe id (load t s) = Store.read t s.view := by
  rw [load_apply]
  unfold Store.read
  rw [find?_view]
  cases hf : s.bindings.find? t.name with
  | none => rfl
  | some u =>
    obtain ⟨p, hp, -⟩ := h.live hf
    dsimp only [Option.map_some]
    unfold invoke
    rw [Recorder.engine_read, Recorder.inWords_apply, Recorder.read_apply (h.serves _) hp]
    have hdata : (s.engine.entry u).data = p := by
      rw [Recorder.entry, hp]
      rfl
    rw [hdata]
    rfl

theorem observe_clear (h : Rests none s) : observe id (clear s) = Store.clear s.view := by
  have hrelease : fault? (clear s) = none :=
    releaseAll_of_coupled (s := { s with
      bindings := .empty, reserved := s.reserved ++ s.bindings.keys, scratch := [] }) h.coupled (by simp)
      (List.Sublist.refl _)
  obtain ⟨hb, hr, -⟩ := reached_clear s
  cases hc : clear s with
  | error e s₁ =>
    rw [hc] at hrelease
    cases hrelease
  | ok u s₁ =>
    rw [hc] at hb hr
    dsimp only [reached_ok] at hb hr
    simp only [observe, view, Store.clear, hb, hr, NameMap.map_empty, NameMap.keys_map, id_eq]

/-! ## Operations -/

/-- what moves nothing is not seen -/
theorem view_performed (h : Rests none s) {ls : List Literal} {i : Instruction BufferRef}
    (hi : ∀ j, ((s.engine.storing ls).following i).data? j = (s.engine.storing ls).data? j) :
    (s.performed ls i).view = s.view := by
  refine view_congr rfl rfl fun t ht => ?_
  have hlt := h.lt_size ht
  rw [data?_performed hlt, hi, Recorder.data?_storing, if_pos hlt]

/-- what is moved to the buffer of an operand is seen under the name of its value, if it has one -/
theorem view_performed_put (h : Rests none s) {ls : List Literal} {i : Instruction BufferRef} {w : Value}
    {y : Operand BufferRef} (hy : y.StandsFor s.bindings.find? ls w) {p : Payload}
    (hi : ∀ j, ((s.engine.storing ls).following i).data? j =
      if (y.ref s.engine.buffers.size).id = j then some p else (s.engine.storing ls).data? j) :
    (s.performed ls i).view = s.view.put w p := by
  have hdata : ∀ t ∈ s.bindings.values, (s.performed ls i).engine.data? t.id =
      if (y.ref s.engine.buffers.size).id = t.id then some p else s.engine.data? t.id := by
    intro t ht
    have hlt := h.lt_size ht
    rw [data?_performed hlt, hi, Recorder.data?_storing, if_pos hlt]
  cases y with
  | bound t =>
    obtain ⟨name, rfl, ht⟩ := hy
    exact view_of_written h ht rfl rfl hdata
  | literal number l =>
    have hput : s.view.put w p = s.view := by
      have hl := hy.1
      cases w with
      | identifier name => cases hl
      | _ => rfl
    rw [hput]
    refine view_congr rfl rfl fun t ht => (hdata t ht).trans (if_neg fun hid => ?_)
    have hlt := h.lt_size ht
    rw [← hid] at hlt
    exact Nat.not_lt.2 (Nat.le_add_right _ _) hlt

/-- the contents of the buffer of an operand are those of its value -/
theorem contents_of_standsFor (h : Rests none s) {ls : List Literal} {v : Value} {x : Operand BufferRef}
    (hx : x.StandsFor s.bindings.find? ls v) :
    ∃ q, (s.engine.storing ls).data? (x.ref s.engine.buffers.size).id = some q ∧ q.kind = Handle.kind x ∧
      q.length = Handle.volume x ∧ s.view.contents? v = some q := by
  cases x with
  | bound t =>
    obtain ⟨name, rfl, ht⟩ := hx
    obtain ⟨q, hq, hkind, hlen⟩ := h.live ht
    refine ⟨q, Recorder.data?_storing_of_some ls hq, hkind, hlen, ?_⟩
    rw [Store.contents?, find?_view, ht]
    simp [Recorder.entry, hq]
  | literal number l =>
    obtain ⟨q, hq, hkind, hlen⟩ := contents_of_found h (x := .literal number l) hx.2
    refine ⟨q, hq, hkind, hlen, ?_⟩
    have hq' : q = l.toPayload := by
      rw [Recorder.data?_storing, Operand.ref, if_neg (by simp), Nat.add_sub_cancel_left, hx.2] at hq
      exact (Option.some.inj hq).symm
    rw [hq']
    cases Value.literal?_eq_some_iff.1 hx.1 <;> rfl

/-- a decided request that the recorder accepts does what the store says, and one that it does not accept fails there -/
theorem effect_of_decision (h : Rests none s) {o : Operator} {op : Operation} {i : Instruction (Operand BufferRef)}
    (hi : (o.decision s.bindings.find? op).outcome = .ok i) :
    ((s.engine.storing (o.literals op)).Accepts (i.map (Operand.ref s.engine.buffers.size)) →
      s.view.effect o op = some (s.performed (o.literals op) (i.map (Operand.ref s.engine.buffers.size))).view) ∧
    (¬ (s.engine.storing (o.literals op)).Accepts (i.map (Operand.ref s.engine.buffers.size)) →
      s.view.effect o op = none) := by
  have hserves : ∀ p, ¬ (s.engine.storing (o.literals op)).Refuses p := by
    intro p hr
    rw [Recorder.Refuses, Recorder.failOn_storing] at hr
    exact h.serves p hr
  have hrequest := request_of_decision hi
  rw [literals_of_decision hi] at hrequest
  rcases hrequest with
    ⟨ho, rfl⟩ | ⟨ho, k, rfl⟩ | ⟨ho, v, w, x, y, htransfer, rfl, hx, hy⟩ | ⟨rfl, w, y, p, hw, rfl, hy, hp⟩
  · have heffect : s.view.effect o op = some s.view := by
      rcases ho with rfl | rfl <;> rfl
    rw [heffect, view_performed h fun j => rfl]
    exact ⟨fun _ => rfl, fun hrejects => absurd trivial hrejects⟩
  · have heffect : s.view.effect o op = some s.view := by
      cases o <;> first | rfl | cases ho
    rw [heffect, view_performed h fun j => rfl]
    exact ⟨fun _ => rfl, fun hrejects => absurd (hserves _) hrejects⟩
  · obtain ⟨q, hq, -, -, hqv⟩ := contents_of_standsFor h hx
    obtain ⟨old, hold, -, -, holdw⟩ := contents_of_standsFor h hy
    have heffect : s.view.effect o op =
        if q.kind = old.kind ∧ q.length = old.length then some (s.view.put w q) else none := by
      rcases ho with rfl | rfl <;> simp [Store.effect, htransfer, hqv, holdw]
    rw [heffect]
    refine ⟨fun haccepts => ?_, fun hrejects => if_neg fun hfits => ?_⟩
    · obtain ⟨-, q', old', hq', hold', hfits⟩ := haccepts
      cases hq.symm.trans hq'
      cases hold.symm.trans hold'
      rw [if_pos (Recorder.fits_iff.1 hfits), view_performed_put h hy fun j => ?_]
      rw [Instruction.map, Recorder.following, Recorder.data?_setting_of_some hold, hq]
    · exact hrejects ⟨hserves _, q, old, hq, hold, Recorder.fits_iff.2 hfits⟩
  · obtain ⟨old, hold, hkind, hlen, holdw⟩ := contents_of_standsFor h hy
    have heffect : s.view.effect .constant op = some (s.view.put w p) := by
      simp [Store.effect, hw, holdw, hkind, hlen, hp]
    rw [heffect]
    obtain ⟨hpkind, hplen⟩ := kind_of_constantData? hp
    refine ⟨fun _ => ?_, fun hrejects => ?_⟩
    · rw [view_performed_put h hy fun j => ?_]
      rw [Instruction.map, Recorder.following, Recorder.data?_setting_of_some hold]
    · refine absurd ⟨hserves _, old, hold, Recorder.fits_iff.2 ⟨?_, ?_⟩⟩ hrejects
      · exact hkind.trans hpkind.symm
      · exact hlen.trans hplen.symm

/-- a store decides what a session decides -/
theorem decides_view (s : Session Recorder BufferRef) (o : Operator) (op : Operation) :
    s.view.decides o op = true ↔ ∃ i, (o.decision s.bindings.find? op).outcome = .ok i := by
  have hfind : s.view.entries.find? = fun name => (s.bindings.find? name).map s.engine.entry :=
    funext fun name => find?_view s name
  unfold Store.decides
  rw [hfind, decision_map s.engine.sameView_entry, Decision.map]
  cases (o.decision s.bindings.find? op).outcome with
  | error e =>
    refine ⟨fun h => ?_, fun ⟨i, hi⟩ => ?_⟩
    · cases h
    · cases hi
  | ok i => exact ⟨fun _ => ⟨i, rfl⟩, fun _ => rfl⟩

theorem observe_perform (h : Rests none s) (o : Operator) (op : Operation) :
    observe id (perform o op s) = Store.perform o op s.view := by
  unfold Store.perform
  rcases perform_of_releasing o op h.scratch (h.serves _) with
    ⟨i, hconcrete, hi, haccepts, hp⟩ | ⟨e, s', stored, hp, hwhy, -, -, hdata⟩
  · rw [hp, if_pos ⟨hconcrete, (decides_view s o op).2 ⟨i, hi⟩⟩, (effect_of_decision h hi).1 haccepts]
    rfl
  · have hview : s'.view = s.view := by
      have hnames := perform_names o op s
      rw [hp] at hnames
      exact view_congr hnames.1 hnames.2 fun t _ => hdata t.id
    have heffect : op.dtype.isConcrete = true ∧ s.view.decides o op = true → s.view.effect o op = none := by
      rintro ⟨hconcrete, hdecides⟩
      obtain ⟨i, hi⟩ := (decides_view s o op).1 hdecides
      rcases hwhy hconcrete with ⟨p, hr⟩ | hrejects
      · exact absurd hr (h.serves p)
      · exact (effect_of_decision h hi).2 (hrejects i hi)
    rw [hp]
    split_ifs with hdecided
    · rw [heffect hdecided]
      exact congrArg _ hview
    · exact congrArg _ hview

/-! ## Runs -/

/-- a step of a session between two steps, and what it is in a store -/
def Simulates {α β : Type} (f : α → β) (x : SessionM Recorder BufferRef α) (x' : StoreM β) : Prop :=
  ∀ s, Rests none s → observe f (x s) = x' s.view

theorem Simulates.bind {α α' β β' : Type} {f : α → α'} {g : β → β'} {x : SessionM Recorder BufferRef α}
    {x' : StoreM α'} {k : α → SessionM Recorder BufferRef β} {k' : α' → StoreM β'} (hx : Simulates f x x')
    (hkeeps : Keeps (Rests none) x) (hk : ∀ a, Simulates g (k a) (k' (f a))) : Simulates g (x >>= k) (x' >>= k') := by
  intro s h
  have h₁ := hx s h
  have h₂ := hkeeps s h
  rw [bind_apply, bind_apply, ← h₁]
  cases hxs : x s with
  | error e s₁ => rfl
  | ok a s₁ =>
    rw [hxs] at h₂
    exact hk a s₁ h₂

theorem Simulates.pure {α β : Type} (f : α → β) (a : α) : Simulates f (pure a) (pure (f a)) := fun _ _ => rfl

/-- the properties that the five actions keep -/
theorem invariant_rests : Invariant (Rests none) := invariant_atRest (Recorder.custody none)

theorem simulates_prepare (key : String) (t : Tensor) : Simulates id (prepare key t) (Store.prepare key t) := by
  intro s h
  unfold prepare Store.prepare
  rw [contains_view]
  unfold isBound
  split
  · rfl
  · refine Simulates.bind (fun s h => observe_bindTensor h t) (invariant_rests.bindTensor t) (fun _ => ?_) s h
    split
    · exact fun s h => observe_store h t
    · exact Simulates.pure id ()

theorem simulates_materialize (entries : List (String × Tensor)) :
    Simulates id (materialize entries) (Store.materialize entries) := by
  induction entries with
  | nil => exact Simulates.pure id ()
  | cons entry rest ih =>
    exact (simulates_prepare entry.1 entry.2).bind
      (keeps_prepare invariant_rests.bindTensor invariant_rests.store entry.1 entry.2) fun _ => ih

theorem simulates_runOperation (index : Nat) (op : Operation) :
    Simulates id (runOperation index op) (Store.performNamed op) := by
  intro s h
  unfold runOperation performNamed Store.performNamed
  cases Operator.named? op.name with
  | none => rfl
  | some r =>
    have hp := observe_perform h r.operator op
    dsimp only
    rw [← hp]
    cases perform r.operator op s <;> rfl

theorem simulates_runOperations (options : RunOptions) (clock : Clock) (index : Nat) (figures : RunStatistics)
    (ops : List Operation) :
    Simulates (fun _ => ()) (runOperations options clock index figures ops) (Store.performAll ops) := by
  induction ops generalizing index figures with
  | nil => exact Simulates.pure _ figures
  | cons op rest ih =>
    exact (simulates_runOperation index op).bind (keeps_runOperation invariant_rests.perform index op) fun _ => ih _ _

theorem simulates_prepareAll (options : RunOptions) (g : Graph) : Simulates id (prepareAll options g)
    (if options.materialize then Store.materialize g.tensors.entries else pure ()) := by
  unfold prepareAll
  split
  · exact simulates_materialize g.tensors.entries
  · exact Simulates.pure id ()

/-- a run of a store is its two phases -/
theorem storeRun_eq (options : RunOptions) (g : Graph) : Store.run options g =
    (if options.materialize then Store.materialize g.tensors.entries else pure ()) >>= fun _ =>
      Store.performAll g.operations := by
  unfold Store.run
  split <;> rfl

theorem observe_runGraph (h : Rests none s) (options : RunOptions) (clock : Clock) (g : Graph) :
    observe (fun _ => ()) (runGraph options clock g s) = Store.run options g s.view := by
  have hprepare := simulates_prepareAll options g s h
  have hrests := invariant_rests.prepareAll options g s h
  rw [runGraph_apply, storeRun_eq, bind_apply, ← hprepare]
  cases hp : prepareAll options g s with
  | error e s₁ => rfl
  | ok u s₁ =>
    rw [hp] at hrests
    have hops := simulates_runOperations options clock 0 ⟨0, 0, 0, .empty⟩ g.operations s₁ hrests
    dsimp only [observe, id_eq]
    rw [← hops]
    cases runOperations options clock 0 ⟨0, 0, 0, .empty⟩ g.operations s₁ <;> rfl

/-! ## Steps -/

/-- answers that are put together from what was observed -/
theorem observe_mapResult {α β γ δ : Type} {f : α → β} {g : α → γ} {c : γ → δ} {k : β → δ}
    (hc : ∀ a, c (g a) = k (f a)) (r : EStateM.Result RunError (Session Recorder BufferRef) α) :
    observe c (mapResult g id r) = mapResult k id (observe f r) := by
  cases r with
  | ok a s => exact congrArg (fun b => EStateM.Result.ok b s.view) (hc a)
  | error e s => rfl

theorem observe_take (h : Rests none s) (step : Step) :
    observe Answer.tensor? (take step s) = Store.take step s.view := by
  cases step with
  | create t =>
    rw [take_create, observe_mapResult (f := id) (k := fun _ => none) fun _ => rfl, observe_bindTensor h]
    exact (bind_pure_apply _ _ _).symm
  | write t =>
    rw [take_write, observe_mapResult (f := id) (k := fun _ => none) fun _ => rfl, observe_store h]
    exact (bind_pure_apply _ _ _).symm
  | read t =>
    rw [take_read, observe_mapResult (f := id) (g := Answer.tensor) (c := Answer.tensor?) (k := some) fun _ => rfl,
      observe_load h]
    exact (bind_pure_apply _ _ _).symm
  | perform o op =>
    rw [take_perform, observe_mapResult (f := id) (k := fun _ => none) fun _ => rfl, observe_perform h]
    exact (bind_pure_apply _ _ _).symm
  | run options clock g =>
    rw [take_run, observe_mapResult (f := fun _ => ()) (k := fun _ => none) fun _ => rfl, observe_runGraph h]
    exact (bind_pure_apply _ _ _).symm
  | clear =>
    rw [take_clear, observe_mapResult (f := id) (k := fun _ => none) fun _ => rfl, observe_clear h]
    exact (bind_pure_apply _ _ _).symm

theorem view_next (h : Rests none s) (step : Step) : (s.next step).view = reached (Store.take step s.view) := by
  rw [← observe_take h, next_eq_reached]
  cases take step s <;> rfl

/-- **Sessions are stores.** Take a session on a recorder without failures and any history, faults included. What names
stand for is what they stand for in a store with the same history, and whatever is done next goes well in the session if
and only if it does in the store; if it is reading, both read the same. -/
theorem view_after (history : List Step) :
    let s := (fresh none).after history
    s.view = Store.empty.after history ∧
      ∀ step, observe Answer.tensor? (take step s) = Store.take step (Store.empty.after history) := by
  have hall : ∀ (history : List Step) (s : Session Recorder BufferRef), Rests none s →
      Rests none (s.after history) ∧ (s.after history).view = s.view.after history := by
    intro history
    induction history with
    | nil => exact fun s h => ⟨h, rfl⟩
    | cons step rest ih =>
      intro s h
      have hnext : Rests none (s.next step) := by
        rw [next_eq_reached]
        exact invariant_rests.take step s h
      have hrest := ih (s.next step) hnext
      rw [view_next h] at hrest
      exact hrest
  obtain ⟨hrests, hview⟩ := hall history (fresh none) (atRest_start (coupled_fresh none))
  intro s
  refine ⟨hview, fun step => ?_⟩
  rw [observe_take hrests step, show s.view = Store.empty.after history from hview]

end Session

end TensorGraph
