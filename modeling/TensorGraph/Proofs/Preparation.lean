/-
What preparing the tensors of a graph does, and how far it gets.

Model: `Session.missing` are the tensors whose names are not bound, and `preparationCalls` what is asked of the engine
for them: an allocation as declared each, and a fill if there is a payload. `Session.Prepared` says that exactly the
given entries were prepared, `Session.StuckAt` that preparing ended with a failure at a tensor.

Main result: `materialization_binds_what_is_missing`, preparing takes the names in order, binds the missing ones and
leaves the others alone; a failure leaves the names before it prepared and those after it untouched.
-/
import TensorGraph.Proofs.Agreement
import TensorGraph.Proofs.Composition
import TensorGraph.Proofs.Lifetime

namespace TensorGraph

/-! ## Model -/

/-- the requests that prepare tensors, the first of which gets buffer number `first` -/
def preparationCalls (first : Nat) : List Tensor → List Call
  | [] => []
  | t :: rest =>
    .allocate first t.kind t.shape ::
      ((if t.data.isSome then [.fill first] else []) ++ preparationCalls (first + 1) rest)

namespace Session

/-- the tensors among entries whose names are not bound -/
def missing (s : Session Recorder BufferRef) (entries : List (String × Tensor)) : List Tensor :=
  (entries.filter fun e => !s.isBound e.1).map Prod.snd

/-- a name that is bound to a tensor as declared, which holds its payload, or zeros if it has none -/
def Carries (s : Session Recorder BufferRef) (name : String) (t : Tensor) : Prop :=
  ∃ u p, s.bindings.find? name = some u ∧ u.kind = t.kind ∧ u.shape = t.shape ∧
    t.data.or (Payload.zeros t.kind (volume t.shape)) = some p ∧ s.engine.data? u.id = some p

/-- the given entries were prepared, and nothing else happened -/
structure Prepared (s : Session Recorder BufferRef) (entries : List (String × Tensor))
    (s' : Session Recorder BufferRef) : Prop where
  log : s'.engine.log.toList = s.engine.log.toList ++ preparationCalls s.engine.buffers.size (s.missing entries)
  requests : s'.requests = s.requests + (preparationCalls s.engine.buffers.size (s.missing entries)).length
  buffers : s'.engine.buffers.size = s.engine.buffers.size + (s.missing entries).length
  /-- what was bound keeps its handle and its contents -/
  kept : ∀ name u, s.bindings.find? name = some u →
    s'.bindings.find? name = some u ∧ s'.engine.data? u.id = s.engine.data? u.id
  carried : ∀ e ∈ entries, s.isBound e.1 = false → s'.Carries e.1 e.2
  others : ∀ name, (∀ e ∈ entries, e.1 ≠ name) → s'.bindings.find? name = s.bindings.find? name

/-- the entries before a tensor were prepared, and then the tensor could not be created, or not be written -/
structure StuckAt (s : Session Recorder BufferRef) (before : List (String × Tensor)) (t : Tensor) (e : RunError)
    (s₁ s' : Session Recorder BufferRef) : Prop where
  prepared : s.Prepared before s₁
  missing : s.isBound t.name = false
  why : bindTensor t s₁ = .error e s' ∨ ∃ s₂, bindTensor t s₁ = .ok () s₂ ∧ store t s₂ = .error e s'
  /-- its name is bound if and only if it was allocated -/
  bound : s'.isBound t.name = true ↔ ∃ s₂, bindTensor t s₁ = .ok () s₂
  log : s'.engine.log.toList = s₁.engine.log.toList ++
    if s'.isBound t.name then [.allocate s₁.engine.buffers.size t.kind t.shape] else []
  others : ∀ name, name ≠ t.name → s'.bindings.find? name = s₁.bindings.find? name
  contents : ∀ name u, s₁.bindings.find? name = some u → s'.engine.data? u.id = s₁.engine.data? u.id

variable {failOn : Option String} {s s₁ s₂ s' : Session Recorder BufferRef}

/-! ## Requests -/

theorem preparationCalls_append (first : Nat) (l m : List Tensor) :
    preparationCalls first (l ++ m) = preparationCalls first l ++ preparationCalls (first + l.length) m := by
  induction l generalizing first with
  | nil => rfl
  | cons t rest ih =>
    rw [List.cons_append, preparationCalls, preparationCalls, ih, List.length_cons, Nat.add_right_comm, Nat.add_assoc]
    simp

theorem missing_append (l m : List (String × Tensor)) : s.missing (l ++ m) = s.missing l ++ s.missing m := by
  rw [missing, List.filter_append, List.map_append]
  rfl

theorem missing_congr {entries : List (String × Tensor)} (h : ∀ e ∈ entries, s₁.isBound e.1 = s.isBound e.1) :
    s₁.missing entries = s.missing entries := by
  rw [missing, missing, List.filter_congr fun e he => by rw [h e he]]

theorem isBound_congr {name : String} (h : s'.bindings.find? name = s.bindings.find? name) :
    s'.isBound name = s.isBound name := by
  rw [isBound, isBound, NameMap.contains, NameMap.contains, h]

/-! ## One list of entries after the other -/

namespace Prepared

variable {l m entries : List (String × Tensor)}

theorem nil (s : Session Recorder BufferRef) : s.Prepared [] s where
  log := (List.append_nil _).symm
  requests := rfl
  buffers := rfl
  kept _ _ h := ⟨h, rfl⟩
  carried _ he := nomatch he
  others _ _ := rfl

theorem bound (h : s.Prepared entries s') : ∀ e ∈ entries, s'.isBound e.1 = true := by
  intro e he
  cases hb : s.isBound e.1 with
  | true =>
    obtain ⟨u, hu⟩ := Option.isSome_iff_exists.1 hb
    exact Option.isSome_iff_exists.2 ⟨u, (h.kept e.1 u hu).1⟩
  | false =>
    obtain ⟨u, -, hu, -⟩ := h.carried e he hb
    exact Option.isSome_iff_exists.2 ⟨u, hu⟩

/-- what is still to be done is not changed by preparing other names -/
theorem isBound_of_apart (h : s.Prepared l s₁) (hapart : ∀ d ∈ l, ∀ e ∈ m, d.1 ≠ e.1) :
    ∀ e ∈ m, s₁.isBound e.1 = s.isBound e.1 :=
  fun e he => isBound_congr (h.others e.1 fun d hd => hapart d hd e he)

/-- preparing entries of other names in addition -/
theorem append (h : s.Prepared l s₁) (h' : s₁.Prepared m s₂) (hapart : ∀ d ∈ l, ∀ e ∈ m, d.1 ≠ e.1) :
    s.Prepared (l ++ m) s₂ where
  log := by
    rw [h'.log, h.log, h.buffers, missing_congr (h.isBound_of_apart hapart), missing_append, preparationCalls_append,
      List.append_assoc]
  requests := by
    rw [h'.requests, h.requests, h.buffers, missing_congr (h.isBound_of_apart hapart), missing_append,
      preparationCalls_append, List.length_append, Nat.add_assoc]
  buffers := by
    rw [h'.buffers, h.buffers, missing_congr (h.isBound_of_apart hapart), missing_append, List.length_append,
      Nat.add_assoc]
  kept name u hu := by
    obtain ⟨hbound, hdata⟩ := h.kept name u hu
    obtain ⟨hbound', hdata'⟩ := h'.kept name u hbound
    exact ⟨hbound', hdata'.trans hdata⟩
  carried e he hmissing := by
    rcases List.mem_append.1 he with he | he
    · -- what was prepared first is bound, so it is kept
      obtain ⟨u, p, hu, hkind, hshape, hp, hdata⟩ := h.carried e he hmissing
      obtain ⟨hu', hdata'⟩ := h'.kept e.1 u hu
      exact ⟨u, p, hu', hkind, hshape, hp, hdata'.trans hdata⟩
    · exact h'.carried e he ((h.isBound_of_apart hapart e he).trans hmissing)
  others name hname := by
    rw [h'.others name fun e he => hname e (List.mem_append_right _ he),
      h.others name fun e he => hname e (List.mem_append_left _ he)]

end Prepared

theorem StuckAt.after {l before : List (String × Tensor)} {t : Tensor} {e : RunError} (h : s.Prepared l s₁)
    (h' : s₁.StuckAt before t e s₂ s') (hapart : ∀ d ∈ l, ∀ e ∈ before, d.1 ≠ e.1)
    (hnew : ∀ d ∈ l, d.1 ≠ t.name) : s.StuckAt (l ++ before) t e s₂ s' :=
  { h' with
    prepared := h.append h'.prepared hapart
    missing := (isBound_congr (h.others t.name hnew)).symm.trans h'.missing }

/-! ## One tensor -/

/-- a creation that goes well adds one buffer of zeros -/
theorem bindTensor_ok {t : Tensor} (h : bindTensor t s = .ok () s') :
    ∃ zeros, Payload.zeros t.kind (volume t.shape) = some zeros ∧ s' = { s with
      engine := s.engine.adding t.kind t.shape zeros
      bindings := s.bindings.insert t.name ⟨s.engine.buffers.size, t.kind, t.shape⟩
      requests := s.requests + 1 } := by
  rcases bindTensor_cases t s with ⟨-, hb⟩ | ⟨-, -, hb⟩ | ⟨-, hkind, ⟨why, r, -, hb⟩ | ⟨u, r, hal, hb⟩⟩ <;> rw [hb] at h
  · cases h
  · cases h
  · cases h
  · cases h
    rw [Recorder.engine_allocate, Recorder.inWords_apply] at hal
    cases hal' : Recorder.allocate t.kind t.shape s.engine with
    | error f r' => rw [hal'] at hal; cases hal
    | ok u' r' =>
      rw [hal'] at hal
      cases hal
      obtain ⟨hr, -⟩ := Recorder.allocate_ok hal'
      obtain ⟨zeros, hz, -⟩ := Recorder.exists_zeros hkind (volume t.shape)
      cases (Recorder.allocate_apply hr hz).symm.trans hal'
      exact ⟨zeros, hz, rfl⟩

/-- a payload that is written replaces what is in the buffer of its name -/
theorem store_ok {t : Tensor} {p : Payload} {u : BufferRef} (hp : t.data = some p)
    (hu : s.bindings.find? t.name = some u) (h : store t s = .ok () s') :
    (∃ old, s.engine.data? u.id = some old) ∧ s' = { s with
      engine := s.engine.setting u.id (some p) (.fill u.id)
      requests := s.requests + 1 } := by
  rw [store_apply, hp, hu] at h
  dsimp only at h
  rw [Recorder.engine_fill] at h
  cases hf : Recorder.fill u p s.engine with
  | error f r =>
    rw [invoke_inWords_error (Recorder.atomic_fill u p) hf] at h
    cases h
  | ok v r =>
    obtain ⟨-, old, hold, -, rfl⟩ := Recorder.fill_ok hf
    rw [invoke_inWords_ok hf] at h
    cases h
    exact ⟨⟨old, hold⟩, rfl⟩

/-- a payload that cannot be written leaves names and buffers as they were -/
theorem store_error {t : Tensor} {e : RunError} (h : store t s = .error e s') :
    s'.bindings = s.bindings ∧ s'.engine = s.engine := by
  rw [store_apply] at h
  cases hp : t.data with
  | none => rw [hp] at h; cases h; exact ⟨rfl, rfl⟩
  | some p =>
    cases hu : s.bindings.find? t.name with
    | none => rw [hp, hu] at h; cases h; exact ⟨rfl, rfl⟩
    | some u =>
      rw [hp, hu] at h
      dsimp only at h
      rw [Recorder.engine_fill] at h
      cases hf : Recorder.fill u p s.engine with
      | ok v r => rw [invoke_inWords_ok hf] at h; cases h
      | error f r =>
        rw [invoke_inWords_error (Recorder.atomic_fill u p) hf] at h
        cases h
        exact ⟨rfl, rfl⟩

/-- what preparing a missing tensor leaves, if it goes well -/
theorem prepare_missing_ok {t : Tensor} (hnew : s.isBound t.name = false) (h : prepare t.name t s = .ok () s') :
    ∃ p, t.data.or (Payload.zeros t.kind (volume t.shape)) = some p ∧
      s'.bindings = s.bindings.insert t.name ⟨s.engine.buffers.size, t.kind, t.shape⟩ ∧
      s'.engine.log.toList = s.engine.log.toList ++ preparationCalls s.engine.buffers.size [t] ∧
      s'.requests = s.requests + (preparationCalls s.engine.buffers.size [t]).length ∧
      s'.engine.buffers.size = s.engine.buffers.size + 1 ∧
      ∀ id, s'.engine.data? id = if id = s.engine.buffers.size then some p else s.engine.data? id := by
  rw [prepare_of_missing hnew] at h
  cases hb : bindTensor t s with
  | error e s₁ => rw [hb] at h; cases h
  | ok u s₁ =>
    rw [hb] at h
    dsimp only at h
    obtain ⟨zeros, hz, rfl⟩ := bindTensor_ok hb
    cases hdata : t.data with
    | none =>
      rw [hdata] at h
      cases h
      refine ⟨zeros, hz, rfl, ?_, ?_, Recorder.size_adding .., Recorder.data?_adding _ _ _ _⟩
      · simp [preparationCalls, hdata]
      · simp [preparationCalls, hdata]
    | some p =>
      rw [hdata] at h
      have hfind : (s.bindings.insert t.name ⟨s.engine.buffers.size, t.kind, t.shape⟩).find? t.name =
          some ⟨s.engine.buffers.size, t.kind, t.shape⟩ := by
        rw [NameMap.find?_insert, if_pos rfl]
      obtain ⟨⟨old, hold⟩, rfl⟩ := store_ok hdata hfind h
      refine ⟨p, rfl, rfl, ?_, ?_, ?_, fun id => ?_⟩
      · simp [preparationCalls, hdata]
      · simp [preparationCalls, hdata]
      · simp
      · dsimp only
        rw [Recorder.data?_setting_of_some hold, Recorder.data?_adding]
        by_cases hid : id = s.engine.buffers.size
        · rw [if_pos hid.symm, if_pos hid]
        · rw [if_neg (Ne.symm hid), if_neg hid, if_neg hid]

/-- a tensor that was prepared, or not because its name is bound -/
theorem prepared_of_ok (hrest : Rests failOn s) {t : Tensor} (h : prepare t.name t s = .ok () s') :
    s.Prepared [(t.name, t)] s' := by
  cases hb : s.isBound t.name with
  | true =>
    have hnone : s.missing [(t.name, t)] = [] := by simp [missing, hb]
    cases (prepare_of_bound hb t).symm.trans h
    exact {
      log := by rw [hnone]; exact (List.append_nil _).symm
      requests := by rw [hnone]; rfl
      buffers := by rw [hnone]; rfl
      kept := fun _ _ hu => ⟨hu, rfl⟩
      carried := fun e he hmissing => by
        rw [List.mem_singleton.1 he, hb] at hmissing
        cases hmissing
      others := fun _ _ => rfl }
  | false =>
    have hone : s.missing [(t.name, t)] = [t] := by simp [missing, hb]
    obtain ⟨p, hp, hbindings, hlog, hrequests, hsize, hdata⟩ := prepare_missing_ok hb h
    refine ⟨by rw [hone, hlog], by rw [hone, hrequests], by rw [hone, hsize]; rfl, fun name u hu => ?_,
      fun e he _ => ?_, fun name hname => ?_⟩
    · have hne : name ≠ t.name := fun heq => by
        rw [isBound, NameMap.contains, ← heq, hu] at hb
        cases hb
      -- a bound handle is live, so its buffer is not the new one
      obtain ⟨q, hq, -⟩ := hrest.live hu
      have hold := Nat.ne_of_lt (Recorder.lt_size_of_data? hq)
      rw [hbindings, NameMap.find?_insert, if_neg hne, hdata, if_neg hold]
      exact ⟨hu, rfl⟩
    · obtain rfl := List.mem_singleton.1 he
      refine ⟨⟨s.engine.buffers.size, t.kind, t.shape⟩, p, ?_, rfl, rfl, hp, ?_⟩
      · rw [hbindings, NameMap.find?_insert, if_pos rfl]
      · rw [hdata, if_pos rfl]
    · have hne : name ≠ t.name := (hname _ List.mem_cons_self).symm
      rw [hbindings, NameMap.find?_insert, if_neg hne]

/-- a tensor that cannot be prepared -/
theorem stuck_of_error (hrest : Rests failOn s) {t : Tensor} {e : RunError} (h : prepare t.name t s = .error e s') :
    s.StuckAt [] t e s s' := by
  cases hb : s.isBound t.name with
  | true => cases (prepare_of_bound hb t).symm.trans h
  | false =>
    rw [prepare_of_missing hb] at h
    cases hcreate : bindTensor t s with
    | error e' s₁ =>
      rw [hcreate] at h
      cases h
      obtain ⟨hbindings, -, hengine⟩ := bindTensor_error hcreate
      have hunbound : s'.isBound t.name = false := (isBound_congr (by rw [hbindings])).trans hb
      exact {
        prepared := .nil s
        missing := hb
        why := Or.inl hcreate
        bound := by simp [hunbound, hcreate]
        log := by simp [hunbound, hengine]
        others := fun name _ => by rw [hbindings]
        contents := fun _ _ _ => by rw [hengine] }
    | ok u s₁ =>
      rw [hcreate] at h
      dsimp only at h
      split at h
      · obtain ⟨hbindings, hengine⟩ := store_error h
        have hbound : s'.isBound t.name = true :=
          (isBound_congr (by rw [hbindings])).trans (bound_of_bindTensor hcreate)
        obtain ⟨zeros, -, rfl⟩ := bindTensor_ok hcreate
        exact {
          prepared := .nil s
          missing := hb
          why := Or.inr ⟨_, hcreate, h⟩
          bound := ⟨fun _ => ⟨_, hcreate⟩, fun _ => hbound⟩
          log := by simp [hbound, hengine]
          others := fun name hne => by rw [hbindings, NameMap.find?_insert, if_neg hne]
          contents := fun name v hv => by
            obtain ⟨q, hq, -⟩ := hrest.live hv
            rw [hengine, Recorder.data?_adding, if_neg (Nat.ne_of_lt (Recorder.lt_size_of_data? hq))] }
      · cases h

/-! ## All tensors -/

section

variable {entries : List (String × Tensor)} {key : String} {t : Tensor} {rest : List (String × Tensor)}

/-- in a list in order, the names to come are other names -/
theorem apart_of_sorted (hsorted : ((key, t) :: rest).Pairwise fun a b => a.1 < b.1) :
    ∀ d ∈ [(key, t)], ∀ e ∈ rest, d.1 ≠ e.1 := by
  intro d hd e he heq
  obtain rfl := List.mem_singleton.1 hd
  have hlt := (List.pairwise_cons.1 hsorted).1 e he
  rw [heq] at hlt
  exact String.lt_irrefl _ hlt

/-- preparing that goes well prepares every entry -/
theorem prepared_of_materialize (hrest : Rests failOn s) (hown : ∀ e ∈ entries, e.2.name = e.1)
    (hsorted : entries.Pairwise fun a b => a.1 < b.1) (h : materialize entries s = .ok () s') :
    s.Prepared entries s' := by
  have hinv := invariant_atRest (Recorder.custody failOn)
  induction entries generalizing s with
  | nil =>
    cases h
    exact .nil _
  | cons entry rest ih =>
    obtain ⟨key, t⟩ := entry
    obtain rfl : t.name = key := hown (key, t) List.mem_cons_self
    have hrest₁ := keeps_prepare hinv.bindTensor hinv.store t.name t s hrest
    rw [materialize, bind_apply] at h
    cases hp : prepare t.name t s with
    | error e s₁ => rw [hp] at h; cases h
    | ok u s₁ =>
      rw [hp] at h hrest₁
      have hfirst := prepared_of_ok hrest hp
      have hothers := ih hrest₁ (fun e he => hown e (List.mem_cons_of_mem _ he)) (List.pairwise_cons.1 hsorted).2 h
      exact hfirst.append hothers (apart_of_sorted hsorted)

/-- preparing that fails is stuck at one of the entries, after those before it -/
theorem stuck_of_materialize (hrest : Rests failOn s) (hown : ∀ e ∈ entries, e.2.name = e.1)
    (hsorted : entries.Pairwise fun a b => a.1 < b.1) {e : RunError} (h : materialize entries s = .error e s') :
    ∃ before t after s₁, entries = before ++ (t.name, t) :: after ∧ materialize before s = .ok () s₁ ∧
      s.StuckAt before t e s₁ s' := by
  have hinv := invariant_atRest (Recorder.custody failOn)
  induction entries generalizing s with
  | nil => cases h
  | cons entry rest ih =>
    obtain ⟨key, t⟩ := entry
    obtain rfl : t.name = key := hown (key, t) List.mem_cons_self
    have hrest₁ := keeps_prepare hinv.bindTensor hinv.store t.name t s hrest
    rw [materialize, bind_apply] at h
    cases hp : prepare t.name t s with
    | error e' s₁ =>
      rw [hp] at h
      cases h
      exact ⟨[], t, rest, s, rfl, rfl, stuck_of_error hrest hp⟩
    | ok u s₁ =>
      rw [hp] at h hrest₁
      have hfirst := prepared_of_ok hrest hp
      obtain ⟨before, t', after, s₂, rfl, hbefore, hstuck⟩ :=
        ih hrest₁ (fun e he => hown e (List.mem_cons_of_mem _ he)) (List.pairwise_cons.1 hsorted).2 h
      have hapart := apart_of_sorted hsorted
      refine ⟨(t.name, t) :: before, t', after, s₂, rfl, ?_, ?_⟩
      · rw [materialize, bind_of_ok hp]
        exact hbefore
      · exact .after hfirst hstuck (fun d hd e he => hapart d hd e (List.mem_append_left _ he))
          fun d hd => hapart d hd (t'.name, t') (List.mem_append_right _ List.mem_cons_self)

end

end Session

/-! ## Main result -/

open Session in
/-- **Preparing binds exactly what is missing.** Take any session on a recorder, whatever its history and whatever
always fails, and run a graph that keeps its own names. First the names of the graph are taken in ascending order, and
for each one that is not bound an allocation as declared is asked for, and a fill if there is a payload.

If this goes well, every name is bound, the old ones as before and the new ones to their payloads or to zeros. Doing it
again does nothing, and the operations run from there. If it does not, the run ends with the fault of creating or
writing the tensor that it got to: the ones before it are prepared, it is bound if it was allocated, and the ones after
it are untouched. -/
theorem materialization_binds_what_is_missing (failOn : Option String) (history : List Step) {g : Graph}
    (hg : g.KeepsOwnNames) {options : RunOptions} (hoption : options.materialize = true) (clock : Clock) :
    let s := (fresh failOn).after history
    g.tensors.entries.map Prod.fst = g.tensorNames ∧ g.tensorNames.Pairwise (· < ·) ∧
    (∀ s', materialize g.tensors.entries s = .ok () s' →
      s.Prepared g.tensors.entries s' ∧ (∀ name ∈ g.tensorNames, s'.isBound name = true) ∧
      materialize g.tensors.entries s' = .ok () s' ∧
      runGraph options clock g s = match runFrom 0 g.operations s' with
        | .error e s₂ => .error e s₂
        | .ok () s₂ => .ok (.ofRun options clock g.operations (s₂.requests - s.requests)) s₂) ∧
    ∀ e s', materialize g.tensors.entries s = .error e s' → runGraph options clock g s = .error e s' ∧
      ∃ before t after s₁, g.tensors.entries = before ++ (t.name, t) :: after ∧
        materialize before s = .ok () s₁ ∧ s.StuckAt before t e s₁ s' := by
  intro s
  have hrest : Rests failOn s := after_atRest (Recorder.custody failOn) (coupled_fresh failOn) history
  have hprepare : prepareAll options g = (materialize g.tensors.entries : SessionM Recorder BufferRef Unit) :=
    if_pos hoption
  refine ⟨rfl, NameMap.sorted_keys _, fun s' h => ?_, fun e s' h => ?_⟩
  · have hprepared := prepared_of_materialize hrest hg g.tensors.sorted h
    refine ⟨hprepared, fun name hname => ?_, materialize_of_bound hprepared.bound, ?_⟩
    · obtain ⟨e, he, rfl⟩ := List.mem_map.1 hname
      exact hprepared.bound e he
    · rw [runGraph_eq, hprepare, h]
      dsimp only
      cases runFrom 0 g.operations s' <;> rfl
  · refine ⟨?_, stuck_of_materialize hrest hg g.tensors.sorted h⟩
    rw [runGraph_eq, hprepare, h]

open Session in
/-- a graph one of whose names is bound before: all goes well without failures, and if nothing can be filled, preparing
ends at the first missing tensor with a payload, which is then bound -/
theorem materialization_binds_what_is_missing_of_four :
    let t := fun (name : String) (data : Option Payload) => Tensor.mk name .integer [1] data
    let g : Graph := ⟨"g", [], .ofList [("a", t "a" none), ("b", t "b" (some (.integer [1]))),
      ("c", t "c" (some (.integer [2]))), ("d", t "d" none)]⟩
    let history : List Step := [.create (t "b" none)]
    let good := (fresh none).after history
    let bad := (fresh (some "fill")).after history
    g.KeepsOwnNames ∧ (default : RunOptions).materialize = true ∧
    (∃ s', materialize g.tensors.entries good = .ok () s' ∧ good.Prepared g.tensors.entries s' ∧
      s'.engine.log.toList = [.allocate 0 .integer [1], .allocate 1 .integer [1], .allocate 2 .integer [1], .fill 2,
        .allocate 3 .integer [1]]) ∧
    ∃ e s', runGraph default Clock.still g bad = .error e s' ∧
      (∃ before t after s₁, g.tensors.entries = before ++ (t.name, t) :: after ∧ bad.StuckAt before t e s₁ s') ∧
      s'.bindings.keys = ["a", "b", "c"] ∧
      s'.engine.log.toList = [.allocate 0 .integer [1], .allocate 1 .integer [1], .allocate 2 .integer [1]] := by
  intro t g history good bad
  have hg : g.KeepsOwnNames := by decide +kernel
  have hoption : (default : RunOptions).materialize = true := rfl
  refine ⟨hg, hoption, ?_, ?_⟩
  · have hfault : fault? (materialize g.tensors.entries good) = none := by decide +kernel
    have hlog : (reached (materialize g.tensors.entries good)).engine.log.toList = [.allocate 0 .integer [1],
        .allocate 1 .integer [1], .allocate 2 .integer [1], .fill 2, .allocate 3 .integer [1]] := by decide +kernel
    obtain ⟨s', hs'⟩ := exists_ok_iff.2 hfault
    rw [hs'] at hlog
    obtain ⟨-, -, hall, -⟩ := materialization_binds_what_is_missing none history hg hoption Clock.still
    exact ⟨s', hs', (hall s' hs').1, hlog⟩
  · have hfault : fault? (materialize g.tensors.entries bad) =
        some (.engine .fill (Fault.injected .fill).message) := by decide +kernel
    have hleft : (reached (materialize g.tensors.entries bad)).bindings.keys = ["a", "b", "c"] ∧
        (reached (materialize g.tensors.entries bad)).engine.log.toList =
          [.allocate 0 .integer [1], .allocate 1 .integer [1], .allocate 2 .integer [1]] := by decide +kernel
    cases hs' : materialize g.tensors.entries bad with
    | ok u s' => rw [hs'] at hfault; cases hfault
    | error e s' =>
      rw [hs'] at hleft
      obtain ⟨-, -, -, hstuck⟩ := materialization_binds_what_is_missing (some "fill") history hg hoption Clock.still
      obtain ⟨hrun, before, t, after, s₁, hsplit, -, h⟩ := hstuck e s' hs'
      exact ⟨e, s', hrun, ⟨before, t, after, s₁, hsplit, h⟩, hleft⟩

end TensorGraph
