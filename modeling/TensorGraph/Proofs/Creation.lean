/-
Which tensors were created in the life of a session.

Model: `createdAfter` lists the tensors of all creations that went well, the ones of materialization included. It is
read off the history, not kept by the session, which only knows the names.

Main results:
- `registered_after`: the names of the created tensors are distinct, they are the names that the session takes for
  taken, and a bound handle has the kind and the shape of the tensor that was created under its name.
-/
import TensorGraph.Proofs.Custody

namespace TensorGraph.Session

variable {σ τ : Type} [Engine σ τ]

/-! ## Model -/

/-- the tensor, if it can be created -/
def created (t : Tensor) (s : Session σ τ) : List Tensor :=
  match bindTensor t s with
  | .ok () _ => [t]
  | .error _ _ => []

/-- the tensor, if preparing it creates it -/
def createdFor (key : String) (t : Tensor) (s : Session σ τ) : List Tensor :=
  if s.isBound key then [] else created t s

/-- the tensors that materialization creates -/
def createdIn : List (String × Tensor) → Session σ τ → List Tensor
  | [], _ => []
  | (key, t) :: rest, s => createdFor key t s ++
    match prepare key t s with
    | .ok () s => createdIn rest s
    | .error _ _ => []

/-- the tensors that a step creates -/
def createdBy (step : Step) (s : Session σ τ) : List Tensor :=
  match step with
  | .create t => created t s
  | .run options _ g => if options.materialize then createdIn g.tensors.entries s else []
  | .write _ | .read _ | .perform .. | .clear => []

variable [Handle τ]

/-- the tensors that a history creates -/
def createdAfter (s : Session σ τ) : List Step → List Tensor
  | [] => []
  | step :: rest => createdBy step s ++ createdAfter (s.next step) rest

/-- an engine whose handles show what was asked for -/
def HonestHandles (σ τ : Type) [Engine σ τ] [Handle τ] : Prop :=
  ∀ (kind : ElementKind) (shape : List Nat) (e e' : σ) (t : τ),
    (Engine.allocate kind shape : EStateM String σ τ) e = .ok t e' → Handle.kind t = kind ∧ Handle.shape t = shape

/-- what the names of a session say about the tensors created in it -/
structure Registered (tensors : List Tensor) (s : Session σ τ) : Prop where
  distinct : (tensors.map Tensor.name).Nodup
  taken : ∀ name, s.isTaken name = true ↔ ∃ t ∈ tensors, t.name = name
  faithful : ∀ name h, s.bindings.find? name = some h →
    ∃ t ∈ tensors, t.name = name ∧ Handle.kind h = t.kind ∧ Handle.shape h = t.shape

/-! ## One creation -/

omit [Engine σ τ] in
theorem registered_start (engine : σ) : Registered [] (start engine : Session σ τ) where
  distinct := List.nodup_nil
  taken name := by simp [isTaken, start, NameMap.contains]
  faithful name h hf := nomatch hf

omit [Engine σ τ] in
/-- only names count -/
theorem Registered.of_names {tensors : List Tensor} {s s' : Session σ τ} (h : Registered tensors s)
    (hb : s'.bindings = s.bindings) (hr : s'.reserved = s.reserved) : Registered tensors s' where
  distinct := h.distinct
  taken name := by
    rw [← h.taken name, isTaken, isTaken, hb, hr]
  faithful name t ht := h.faithful name t (hb ▸ ht)

/-- a creation adds its tensor if it goes well, and changes no name if it fails -/
theorem registered_bindTensor (honest : HonestHandles σ τ) {tensors : List Tensor} {s : Session σ τ}
    (h : Registered tensors s) (t : Tensor) :
    Registered (tensors ++ created t s) (reached (bindTensor t s)) := by
  unfold created
  rcases bindTensor_cases t s with ⟨-, hb⟩ | ⟨-, -, hb⟩ | ⟨hnew, -, ⟨why, e, -, hb⟩ | ⟨u, e, hal, hb⟩⟩
  · simpa [hb] using h
  · simpa [hb] using h
  · rw [hb, List.append_nil]
    exact h.of_names rfl rfl
  · rw [hb]
    obtain ⟨hukind, hushape⟩ := honest _ _ _ _ _ hal
    have hfresh : t.name ∉ tensors.map Tensor.name := by
      intro hmem
      obtain ⟨t', ht', hname⟩ := List.mem_map.1 hmem
      rw [(h.taken t.name).2 ⟨t', ht', hname⟩] at hnew
      cases hnew
    refine ⟨?_, fun name => ?_, fun name v hv => ?_⟩
    · rw [List.map_append]
      exact List.nodup_append_comm.1 (List.nodup_cons.2 ⟨hfresh, h.distinct⟩)
    · have hstep : isTaken { s with engine := e, bindings := s.bindings.insert t.name u, requests := s.requests + 1 }
          name = true ↔ name = t.name ∨ s.isTaken name = true := by
        by_cases hn : name = t.name <;> simp [isTaken, NameMap.contains, hn]
      rw [reached_ok, hstep, h.taken name]
      simp only [List.mem_append, List.mem_singleton]
      constructor
      · rintro (rfl | ⟨t', ht', hname⟩)
        · exact ⟨t, Or.inr rfl, rfl⟩
        · exact ⟨t', Or.inl ht', hname⟩
      · rintro ⟨t', ht' | rfl, hname⟩
        · exact Or.inr ⟨t', ht', hname⟩
        · exact Or.inl hname.symm
    · rw [reached_ok, NameMap.find?_insert] at hv
      split_ifs at hv with hn
      · cases hv
        exact ⟨t, List.mem_append_right _ List.mem_cons_self, hn.symm, hukind, hushape⟩
      · obtain ⟨t', ht', hfacts⟩ := h.faithful name v hv
        exact ⟨t', List.mem_append_left _ ht', hfacts⟩

/-! ## Steps without a creation -/

omit [Handle τ] in
theorem store_names (t : Tensor) (s : Session σ τ) :
    (reached (store t s)).bindings = s.bindings ∧ (reached (store t s)).reserved = s.reserved := by
  rw [store_apply]
  split
  · exact ⟨rfl, rfl⟩
  · exact ⟨rfl, rfl⟩
  · rw [reached_invoke]
    exact ⟨rfl, rfl⟩

omit [Handle τ] in
theorem load_names (t : Tensor) (s : Session σ τ) :
    (reached (load t s)).bindings = s.bindings ∧ (reached (load t s)).reserved = s.reserved := by
  rw [load_apply]
  split
  · exact ⟨rfl, rfl⟩
  · rw [reached_mapResult, reached_invoke]
    exact ⟨rfl, rfl⟩

/-- clearing keeps all names taken -/
theorem registered_clear {tensors : List Tensor} {s : Session σ τ} (h : Registered tensors s) :
    Registered tensors (reached (clear s)) := by
  obtain ⟨hb, hr, -⟩ := reached_clear s
  refine ⟨h.distinct, fun name => ?_, fun name t ht => ?_⟩
  · have htaken : (reached (clear s)).isTaken name = s.isTaken name := by
      have hkeys : name ∈ s.bindings.keys ↔ s.bindings.contains name = true := NameMap.mem_keys_iff
      rw [isTaken, isTaken, hb, hr, Bool.eq_iff_iff]
      simp only [NameMap.contains, NameMap.find?_empty, Option.isSome_none, Bool.false_or, List.contains_iff_mem,
        List.mem_append, Bool.or_eq_true]
      rw [hkeys, NameMap.contains]
      exact or_comm
    rw [htaken]
    exact h.taken name
  · rw [hb] at ht
    cases ht

/-! ## Every step -/

theorem registered_prepare (honest : HonestHandles σ τ) {tensors : List Tensor} {s : Session σ τ}
    (h : Registered tensors s) (key : String) (t : Tensor) :
    Registered (tensors ++ createdFor key t s) (reached (prepare key t s)) := by
  unfold createdFor prepare
  split
  · simpa using h
  · have hbind := registered_bindTensor honest h t
    rw [bind_apply]
    cases hb : bindTensor t s with
    | error e s₁ => rwa [hb] at hbind
    | ok u s₁ =>
      rw [hb] at hbind
      dsimp only
      split
      · exact hbind.of_names (store_names t s₁).1 (store_names t s₁).2
      · exact hbind

theorem registered_materialize (honest : HonestHandles σ τ) {tensors : List Tensor} {s : Session σ τ}
    (h : Registered tensors s) (entries : List (String × Tensor)) :
    Registered (tensors ++ createdIn entries s) (reached (materialize entries s)) := by
  induction entries generalizing s tensors with
  | nil => simpa [createdIn, materialize] using h
  | cons entry rest ih =>
    obtain ⟨key, t⟩ := entry
    have hfirst := registered_prepare honest h key t
    unfold createdIn materialize
    rw [bind_apply]
    cases hp : prepare key t s with
    | error e s₁ =>
      rw [hp] at hfirst
      simpa using hfirst
    | ok u s₁ =>
      rw [hp] at hfirst
      rw [← List.append_assoc]
      exact ih hfirst

/-- operations create nothing -/
theorem registered_runGraph (honest : HonestHandles σ τ) {tensors : List Tensor} {s : Session σ τ}
    (h : Registered tensors s) (options : RunOptions) (clock : Clock) (g : Graph) :
    Registered (tensors ++ if options.materialize then createdIn g.tensors.entries s else [])
      (reached (runGraph options clock g s)) := by
  have hprepare : Registered (tensors ++ if options.materialize then createdIn g.tensors.entries s else [])
      (reached (prepareAll options g s)) := by
    unfold prepareAll
    split
    · exact registered_materialize honest h g.tensors.entries
    · simpa using h
  have hops : ∀ {tensors : List Tensor} (o : Operator) (op : Operation),
      Keeps (Registered tensors) (perform o op : SessionM σ τ Unit) :=
    fun o op s hs => hs.of_names (perform_names o op s).1 (perform_names o op s).2
  rw [runGraph_apply]
  cases hp : prepareAll options g s with
  | error e s₁ => rwa [hp] at hprepare
  | ok u s₁ =>
    rw [hp] at hprepare
    dsimp only
    rw [reached_mapResult]
    exact keeps_runOperations hops options clock 0 _ g.operations s₁ hprepare

theorem registered_take (honest : HonestHandles σ τ) {tensors : List Tensor} {s : Session σ τ}
    (h : Registered tensors s) (step : Step) : Registered (tensors ++ createdBy step s) (s.next step) := by
  rw [next_eq_reached]
  cases step with
  | create t =>
    rw [take_create, reached_mapResult]
    exact registered_bindTensor honest h t
  | write t =>
    rw [take_write, reached_mapResult, createdBy, List.append_nil]
    exact h.of_names (store_names t s).1 (store_names t s).2
  | read t =>
    rw [take_read, reached_mapResult, createdBy, List.append_nil]
    exact h.of_names (load_names t s).1 (load_names t s).2
  | perform o op =>
    rw [take_perform, reached_mapResult, createdBy, List.append_nil]
    exact h.of_names (perform_names o op s).1 (perform_names o op s).2
  | run options clock g =>
    rw [take_run, reached_mapResult]
    exact registered_runGraph honest h options clock g
  | clear =>
    rw [take_clear, reached_mapResult, createdBy, List.append_nil]
    exact registered_clear h

/-- **Names stand for what was created.** After every history the created tensors have distinct names, a name is taken
if and only if a tensor was created under it, and what is bound to a name has the kind and the shape of that tensor. -/
theorem registered_after (honest : HonestHandles σ τ) (engine : σ) (history : List Step) :
    Registered (createdAfter (start engine) history) ((start engine : Session σ τ).after history) := by
  have hall : ∀ (history : List Step) (tensors : List Tensor) (s : Session σ τ), Registered tensors s →
      Registered (tensors ++ createdAfter s history) (s.after history) := by
    intro history
    induction history with
    | nil => intro tensors s h; simpa [createdAfter, after] using h
    | cons step rest ih =>
      intro tensors s h
      have hrest := ih _ _ (registered_take honest h step)
      rwa [List.append_assoc] at hrest
  exact hall history [] _ (registered_start engine)

end TensorGraph.Session
