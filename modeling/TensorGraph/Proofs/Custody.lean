/-
Who holds which handle.

Model: a session holds the handles of its bindings and of its scratch tensors, and an operation holds the handles of
its operands only as long as it runs. `Custody` is what an engine has to keep true about the handles that somebody
holds: an allocation adds one, a release takes one away whether or not it succeeds, and every other primitive is given
handles that are held.

Main result: `after_atRest`, what an engine keeps true of held handles is true after every history of a session.
-/
import TensorGraph.Proofs.Invariant
import TensorGraph.Proofs.Names
import TensorGraph.Proofs.Supply

namespace TensorGraph

/-! ## Handles of a session -/

/-- the handles of a session, those of its bindings before those of its scratch tensors -/
def Session.held {σ τ : Type} (s : Session σ τ) : List τ := s.bindings.values ++ s.scratch

/-! ## What an engine keeps true -/

/-- the handle that an allocation gave out, if it gave one -/
def granted {σ τ : Type} : EStateM.Result String σ τ → List τ
  | .ok t _ => [t]
  | .error _ _ => []

/-- what is true of an engine and the handles that somebody holds, whatever is done with them -/
structure Custody (σ τ : Type) [Engine σ τ] where
  Holds : List τ → σ → Prop
  of_perm : ∀ {held held' : List τ} {e : σ}, held.Perm held' → Holds held e → Holds held' e
  allocate : ∀ {held : List τ} {e : σ} (kind : ElementKind) (shape : List Nat), Holds held e →
    Holds (granted ((Engine.allocate kind shape : EStateM String σ τ) e) ++ held)
      (reached ((Engine.allocate kind shape : EStateM String σ τ) e))
  release : ∀ {held : List τ} {e : σ} (t : τ), Holds (t :: held) e →
    Holds held (reached ((Engine.release t : EStateM String σ Unit) e))
  fill : ∀ {held : List τ} {e : σ} {t : τ} (p : Payload), t ∈ held → Holds held e →
    Holds held (reached ((Engine.fill t p : EStateM String σ Unit) e))
  read : ∀ {held : List τ} {e : σ} {t : τ}, t ∈ held → Holds held e →
    Holds held (reached ((Engine.read t : EStateM String σ Payload) e))
  copy : ∀ {held : List τ} {e : σ} {x y : τ}, x ∈ held → y ∈ held → Holds held e →
    Holds held (reached ((Engine.copy x y : EStateM String σ Unit) e))
  compute : ∀ {held : List τ} {e : σ} {k : Kernel τ}, (∀ t ∈ k.handles, t ∈ held) → Holds held e →
    Holds held (reached ((Engine.compute k : EStateM String σ Unit) e))

/-- nothing in particular is true of every engine -/
def Custody.any {σ τ : Type} [Engine σ τ] : Custody σ τ where
  Holds _ _ := True
  of_perm _ _ := trivial
  allocate _ _ _ := trivial
  release _ _ := trivial
  fill _ _ _ := trivial
  read _ _ := trivial
  copy _ _ _ := trivial
  compute _ _ := trivial

namespace Session

variable {σ τ α β γ : Type}

/-- what looking up operands leaves alone: names keep their handles, and scratch tensors are only added -/
structure Grown (s s' : Session σ τ) : Prop where
  bindings : s'.bindings = s.bindings
  reserved : s'.reserved = s.reserved
  scratch : s.scratch <+: s'.scratch

theorem Grown.refl (s : Session σ τ) : Grown s s := ⟨rfl, rfl, List.prefix_refl _⟩

theorem Grown.trans {s t u : Session σ τ} (h₁ : Grown s t) (h₂ : Grown t u) : Grown s u :=
  ⟨h₂.bindings.trans h₁.bindings, h₂.reserved.trans h₁.reserved, h₁.scratch.trans h₂.scratch⟩

theorem Grown.held_subset {s s' : Session σ τ} (h : Grown s s') : s.held ⊆ s'.held := by
  intro t ht
  unfold held at ht ⊢
  rw [h.bindings]
  rcases List.mem_append.1 ht with ht | ht
  · exact List.mem_append_left _ ht
  · exact List.mem_append_right _ (h.scratch.subset ht)

variable [Engine σ τ]

/-- what the engine keeps true, for the handles of the session -/
def Safe (C : Custody σ τ) (s : Session σ τ) : Prop := C.Holds s.held s.engine

/-! ## Releasing -/

/-- releasing touches the engine and the count of requests only -/
theorem reached_releaseAll (ts : List τ) (s : Session σ τ) :
    ∃ engine requests, reached (releaseAll ts s) = { s with engine, requests } := by
  induction ts generalizing s with
  | nil => exact ⟨s.engine, s.requests, rfl⟩
  | cons t rest ih =>
    rw [releaseAll, reached_both, reached_invoke]
    exact ih _

/-- handles that are given up one by one are no longer held, whatever the engine says -/
theorem releaseAll_holds (C : Custody σ τ) {rest : List τ} (ts : List τ) (s : Session σ τ)
    (h : C.Holds (ts ++ rest) s.engine) : C.Holds rest (reached (releaseAll ts s)).engine := by
  induction ts generalizing s with
  | nil => exact h
  | cons t ts ih =>
    rw [releaseAll, reached_both, reached_invoke]
    exact ih _ (C.release t h)

/-! ## Looking up -/

/-- a step that looks up handles: all of them are held when it ends well -/
def Gathers (C : Custody σ τ) (act : SessionM σ τ α) (handles : α → List τ) : Prop :=
  ∀ s, Safe C s → match act s with
    | .ok a s' => Safe C s' ∧ Grown s s' ∧ handles a ⊆ s'.held
    | .error _ s' => Safe C s' ∧ Grown s s'

namespace Gathers

variable {C : Custody σ τ}

theorem pure (a : α) {handles : α → List τ} (h : handles a = []) : Gathers C (pure a) handles :=
  fun s hs => ⟨hs, Grown.refl s, h ▸ List.nil_subset _⟩

theorem throw (e : RunError) (handles : α → List τ) : Gathers C (throw e) handles :=
  fun s hs => ⟨hs, Grown.refl s⟩

theorem bind {x : SessionM σ τ α} {k : α → SessionM σ τ β} {f : α → List τ} {g : β → List τ} (hx : Gathers C x f)
    (hk : ∀ a, Gathers C (k a) g) : Gathers C (x >>= k) g := by
  intro s hs
  have h₁ := hx s hs
  rw [bind_apply]
  cases hx' : x s with
  | error e s₁ => rw [hx'] at h₁; exact h₁
  | ok a s₁ =>
    rw [hx'] at h₁
    have h₂ := hk a s₁ h₁.1
    dsimp only
    cases hk' : k a s₁ with
    | error e s₂ => rw [hk'] at h₂; exact ⟨h₂.1, h₁.2.1.trans h₂.2⟩
    | ok b s₂ => rw [hk'] at h₂; exact ⟨h₂.1, h₁.2.1.trans h₂.2.1, h₂.2.2⟩

/-- what the first step found is still held when the second one ends -/
theorem pair {x : SessionM σ τ α} {y : SessionM σ τ β} {f : α → List τ} {g : β → List τ} (hx : Gathers C x f)
    (hy : Gathers C y g) (c : α → β → γ) {handles : γ → List τ} (hh : ∀ a b, handles (c a b) ⊆ f a ++ g b) :
    Gathers C (do let a ← x; let b ← y; return c a b) handles := by
  intro s hs
  have h₁ := hx s hs
  rw [bind_apply]
  cases hx' : x s with
  | error e s₁ => rw [hx'] at h₁; exact h₁
  | ok a s₁ =>
    rw [hx'] at h₁
    obtain ⟨hs₁, hg₁, hf⟩ := h₁
    have h₂ := hy s₁ hs₁
    dsimp only
    rw [bind_apply]
    cases hy' : y s₁ with
    | error e s₂ => rw [hy'] at h₂; exact ⟨h₂.1, hg₁.trans h₂.2⟩
    | ok b s₂ =>
      rw [hy'] at h₂
      obtain ⟨hs₂, hg₂, hg⟩ := h₂
      refine ⟨hs₂, hg₁.trans hg₂, fun t ht => ?_⟩
      rcases List.mem_append.1 (hh a b ht) with ht | ht
      · exact hg₂.held_subset (hf ht)
      · exact hg ht

end Gathers

theorem gathers_handle (C : Custody σ τ) (name : String) : Gathers C (handle name) fun t => [t] := by
  intro s hs
  unfold handle
  cases h : s.bindings.find? name with
  | none => exact ⟨hs, Grown.refl s⟩
  | some t =>
    refine ⟨hs, Grown.refl s, fun u hu => ?_⟩
    rw [List.mem_singleton.1 hu]
    exact List.mem_append_left _ (NameMap.mem_values_of_find? h)

/-- a literal is allocated, then scratch, then filled -/
theorem literal_apply (l : Literal) (s : Session σ τ) :
    literal l s = match (Engine.allocate l.kind [] : EStateM String σ τ) s.engine with
      | .error why e => .error (.engine .allocate why) { s with engine := e, requests := s.requests + 1 }
      | .ok t e =>
        match (Engine.fill t l.toPayload : EStateM String σ Unit) e with
        | .error why e =>
          .error (.engine .fill why) { s with engine := e, scratch := s.scratch ++ [t], requests := s.requests + 2 }
        | .ok () e => .ok t { s with engine := e, scratch := s.scratch ++ [t], requests := s.requests + 2 } := by
  unfold literal
  rw [bind_apply, invoke]
  cases (Engine.allocate l.kind [] : EStateM String σ τ) s.engine with
  | error why e => rfl
  | ok t e =>
    simp only [bind_apply, modify_apply, invoke]
    cases (Engine.fill t l.toPayload : EStateM String σ Unit) e <;> rfl

theorem gathers_literal (C : Custody σ τ) (l : Literal) : Gathers C (literal l) fun t => [t] := by
  intro s hs
  have ha := C.allocate l.kind [] hs
  rw [literal_apply]
  cases hal : (Engine.allocate l.kind [] : EStateM String σ τ) s.engine with
  | error why e =>
    rw [hal] at ha
    exact ⟨ha, ⟨rfl, rfl, List.prefix_refl _⟩⟩
  | ok t e =>
    rw [hal] at ha
    have hheld : s.bindings.values ++ (s.scratch ++ [t]) = s.held ++ [t] := (List.append_assoc ..).symm
    have ht : t ∈ s.bindings.values ++ (s.scratch ++ [t]) := by simp
    have hf : C.Holds (s.bindings.values ++ (s.scratch ++ [t]))
        (reached ((Engine.fill t l.toPayload : EStateM String σ Unit) e)) := by
      refine C.fill l.toPayload ht ?_
      rw [hheld]
      exact C.of_perm (List.perm_append_singleton t s.held).symm ha
    dsimp only
    cases hfill : (Engine.fill t l.toPayload : EStateM String σ Unit) e with
    | error why e' => rw [hfill] at hf; exact ⟨hf, ⟨rfl, rfl, List.prefix_append _ _⟩⟩
    | ok u e' =>
      rw [hfill] at hf
      exact ⟨hf, ⟨rfl, rfl, List.prefix_append _ _⟩, fun u hu => List.mem_singleton.1 hu ▸ ht⟩

/-- looking up operands gathers handles that are held -/
def gathering (C : Custody σ τ) : Collection (supply : Supply (SessionM σ τ) τ) where
  Yields := Gathers C
  pure := Gathers.pure
  throw handles _ := Gathers.throw _ handles
  bind := Gathers.bind
  pair c _ hx hy hh := hx.pair hy c hh
  named := gathers_handle C
  literal := gathers_literal C

/-! ## Named tensors -/

/-- a session between two steps: what the engine keeps true holds, and nothing is scratch -/
structure AtRest (C : Custody σ τ) (s : Session σ τ) : Prop where
  safe : Safe C s
  scratch : s.scratch = []

theorem atRest_start {C : Custody σ τ} {engine : σ} (h : C.Holds [] engine) : AtRest C (start engine) := ⟨h, rfl⟩

omit [Engine σ τ] in
/-- a name that is not taken is not bound -/
theorem find?_of_not_taken {s : Session σ τ} {name : String} (h : s.isTaken name = false) :
    s.bindings.find? name = none := by
  rw [isTaken, Bool.or_eq_false_iff, NameMap.contains, Option.isSome_eq_false_iff, Option.isNone_iff_eq_none] at h
  exact h.1

theorem bindTensor_keeps (C : Custody σ τ) (t : Tensor) : Keeps (AtRest C) (bindTensor t) := by
  intro s hs
  have ha := C.allocate t.kind t.shape hs.safe
  rcases bindTensor_cases t s with ⟨-, h⟩ | ⟨-, -, h⟩ | ⟨hnew, -, ⟨why, e, hal, h⟩ | ⟨u, e, hal, h⟩⟩
  · rw [h]
    exact hs
  · rw [h]
    exact hs
  · rw [h]
    rw [hal] at ha
    exact ⟨ha, hs.scratch⟩
  · rw [h]
    rw [hal] at ha
    refine ⟨C.of_perm ?_ ha, hs.scratch⟩
    exact ((NameMap.values_insert_perm u (find?_of_not_taken hnew)).append_right s.scratch).symm

theorem store_keeps (C : Custody σ τ) (t : Tensor) : Keeps (AtRest C) (store t) := by
  intro s hs
  rw [store_apply]
  cases t.data with
  | none => exact hs
  | some p =>
    cases hf : s.bindings.find? t.name with
    | none => exact hs
    | some h =>
      dsimp only
      rw [reached_invoke]
      exact ⟨C.fill _ (List.mem_append_left _ (NameMap.mem_values_of_find? hf)) hs.safe, hs.scratch⟩

theorem load_keeps (C : Custody σ τ) (t : Tensor) : Keeps (AtRest C) (load t) := by
  intro s hs
  rw [load_apply]
  cases hf : s.bindings.find? t.name with
  | none => exact hs
  | some h =>
    dsimp only
    rw [reached_mapResult, reached_invoke]
    exact ⟨C.read (List.mem_append_left _ (NameMap.mem_values_of_find? hf)) hs.safe, hs.scratch⟩

/-- a cleared session holds nothing, and has reserved the names it had bound -/
theorem reached_clear (s : Session σ τ) : (reached (clear s)).bindings = .empty ∧
    (reached (clear s)).reserved = s.reserved ++ s.bindings.keys ∧ (reached (clear s)).scratch = [] := by
  obtain ⟨e, n, hr⟩ := reached_releaseAll (s.bindings.values ++ s.scratch)
    { s with bindings := .empty, reserved := s.reserved ++ s.bindings.keys, scratch := [] }
  unfold clear
  rw [hr]
  exact ⟨rfl, rfl, rfl⟩

theorem held_clear (s : Session σ τ) : (reached (clear s)).held = [] := by
  obtain ⟨hb, -, hsc⟩ := reached_clear s
  unfold held
  rw [hb, hsc]
  rfl

theorem clear_keeps (C : Custody σ τ) : Keeps (AtRest C) clear := by
  intro s hs
  have hheld : C.Holds ((s.bindings.values ++ s.scratch) ++ []) s.engine := by
    rw [List.append_nil]
    exact hs.safe
  obtain ⟨hb, -, hsc⟩ := reached_clear s
  refine ⟨?_, hsc⟩
  unfold Safe held
  rw [hb, hsc]
  exact releaseAll_holds C _ _ hheld

/-! ## Operations -/

/-- an instruction on held handles changes the engine and the count of requests only -/
theorem issue_keeps (C : Custody σ τ) {i : Instruction τ} {s : Session σ τ} (hs : Safe C s)
    (hi : ∀ t ∈ i.handles, t ∈ s.held) : Safe C (reached (issue i s)) ∧ Grown s (reached (issue i s)) := by
  cases i with
  | idle => exact ⟨hs, Grown.refl s⟩
  | fill t p =>
    rw [issue, reached_invoke]
    exact ⟨C.fill p (hi t List.mem_cons_self) hs, ⟨rfl, rfl, List.prefix_refl _⟩⟩
  | copy x y =>
    rw [issue, reached_invoke]
    exact ⟨C.copy (hi x List.mem_cons_self) (hi y (by simp [Instruction.handles])) hs, ⟨rfl, rfl, List.prefix_refl _⟩⟩
  | compute name k =>
    rw [issue, reached_invoke]
    exact ⟨C.compute hi hs, ⟨rfl, rfl, List.prefix_refl _⟩⟩

/-- what the scratch tensors of an operation leave behind: no handle, and all names as they were -/
theorem releaseScratch_keeps (C : Custody σ τ) {s : Session σ τ} (hs : Safe C s) :
    Safe C (reached (releaseScratch s)) ∧ (reached (releaseScratch s)).bindings = s.bindings ∧
      (reached (releaseScratch s)).reserved = s.reserved ∧ (reached (releaseScratch s)).scratch = [] := by
  have hheld : C.Holds (s.scratch ++ s.bindings.values) s.engine := C.of_perm List.perm_append_comm hs
  have h := releaseAll_holds C s.scratch { s with scratch := [] } hheld
  obtain ⟨e, n, hr⟩ := reached_releaseAll s.scratch { s with scratch := [] }
  unfold releaseScratch
  rw [hr] at h ⊢
  refine ⟨?_, rfl, rfl, rfl⟩
  unfold Safe held
  rw [List.append_nil]
  exact h

variable [Handle τ]

theorem dispatch_keeps (C : Custody σ τ) (o : Operator) (op : Operation) {s : Session σ τ} (hs : Safe C s) :
    Safe C (reached (dispatch o op s)) ∧ Grown s (reached (dispatch o op s)) := by
  unfold dispatch
  rw [bind_apply]
  cases o.precheck op with
  | error e => exact ⟨hs, Grown.refl s⟩
  | ok u =>
    have h := (gathering C).fillSlots op o.signature s hs
    dsimp only [decided, pure_apply]
    rw [bind_apply]
    cases hf : supply.fillSlots op o.signature s with
    | error e s₁ => rw [hf] at h; exact h
    | ok xs s₁ =>
      rw [hf] at h
      obtain ⟨hs₁, hg, hxs⟩ := h
      dsimp only
      rw [bind_apply]
      cases hp : o.plan op xs with
      | error e => exact ⟨hs₁, hg⟩
      | ok i =>
        have hi := issue_keeps C hs₁ fun t ht => hxs (mem_operands_of_plan hp t ht)
        exact ⟨hi.1, hg.trans hi.2⟩

/-- an operation changes no name, and gives up all its scratch tensors -/
theorem perform_keeps (C : Custody σ τ) (o : Operator) (op : Operation) {s : Session σ τ} (hs : Safe C s) :
    Safe C (reached (perform o op s)) ∧ (reached (perform o op s)).bindings = s.bindings ∧
      (reached (perform o op s)).reserved = s.reserved ∧
      (s.scratch = [] → (reached (perform o op s)).scratch = []) := by
  unfold perform
  split
  · rw [reached_both]
    obtain ⟨hd, hg⟩ := dispatch_keeps C o op hs
    obtain ⟨hr, hb, hn, he⟩ := releaseScratch_keeps C hd
    exact ⟨hr, hb.trans hg.bindings, hn.trans hg.reserved, fun _ => he⟩
  · exact ⟨hs, rfl, rfl, id⟩

/-- an operation changes no name, on any engine -/
theorem perform_names (o : Operator) (op : Operation) (s : Session σ τ) :
    (reached (perform o op s)).bindings = s.bindings ∧ (reached (perform o op s)).reserved = s.reserved := by
  obtain ⟨-, hb, hr, -⟩ := perform_keeps Custody.any o op (s := s) trivial
  exact ⟨hb, hr⟩

/-! ## Every step -/

theorem invariant_atRest (C : Custody σ τ) : Invariant (AtRest C) where
  bindTensor := bindTensor_keeps C
  store := store_keeps C
  load := load_keeps C
  perform o op _ hs := ⟨(perform_keeps C o op hs.safe).1, (perform_keeps C o op hs.safe).2.2.2 hs.scratch⟩
  clear := clear_keeps C

/-- **Custody.** What an engine keeps true of the handles that somebody holds is true of the handles of a session after
every history, and no scratch tensor is left behind. -/
theorem after_atRest (C : Custody σ τ) {engine : σ} (h : C.Holds [] engine) (history : List Step) :
    AtRest C ((start engine).after history) :=
  (invariant_atRest C).after (atRest_start h) history

end Session

end TensorGraph
