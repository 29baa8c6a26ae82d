/-
Properties of a session that survive everything that is done with it.

Model: five actions change a session (`bindTensor`, `store`, `load`, `perform` and `clear`); all other steps are put
together from them. A property that these five keep, whether or not they succeed, is an `Invariant`.

Main result: `Invariant.after`, an invariant that holds at the start holds after every history.
-/
import TensorGraph.Proofs.Outcome
import TensorGraph.Run.Step

namespace TensorGraph.Session

variable {σ τ α β : Type}

/-! ## Keeping a property -/

/-- a step that keeps a property of the session, whether or not it succeeds -/
def Keeps (P : Session σ τ → Prop) (act : SessionM σ τ α) : Prop := ∀ s, P s → P (reached (act s))

namespace Keeps

variable {P : Session σ τ → Prop}

theorem pure (a : α) : Keeps P (pure a) := fun _ h => h

theorem throw (e : RunError) : Keeps P (throw e : SessionM σ τ α) := fun _ h => h

theorem bind {x : SessionM σ τ α} {k : α → SessionM σ τ β} (hx : Keeps P x) (hk : ∀ a, Keeps P (k a)) :
    Keeps P (x >>= k) := by
  intro s hs
  have h := hx s hs
  rw [bind_apply]
  cases hx' : x s with
  | ok a s' => rw [hx'] at h; exact hk a s' h
  | error e s' => rw [hx'] at h; exact h

theorem both {x y : SessionM σ τ Unit} (hx : Keeps P x) (hy : Keeps P y) : Keeps P (both x y) := by
  intro s hs
  rw [reached_both]
  exact hy _ (hx s hs)

end Keeps

/-! ## Steps and runs -/

variable [Engine σ τ] [Handle τ]

/-- each step is one action, and an answer made of what it gives -/
theorem take_create (t : Tensor) (s : Session σ τ) :
    take (.create t) s = mapResult (fun _ => .done) id (bindTensor t s) := bind_pure_apply _ _ s

theorem take_write (t : Tensor) (s : Session σ τ) :
    take (.write t) s = mapResult (fun _ => .done) id (store t s) := bind_pure_apply _ _ s

theorem take_read (t : Tensor) (s : Session σ τ) :
    take (.read t) s = mapResult .tensor id (load t s) := bind_pure_apply _ _ s

theorem take_perform (o : Operator) (op : Operation) (s : Session σ τ) :
    take (.perform o op) s = mapResult (fun _ => .done) id (perform o op s) := bind_pure_apply _ _ s

theorem take_run (options : RunOptions) (clock : Clock) (g : Graph) (s : Session σ τ) :
    take (.run options clock g) s = mapResult .figures id (runGraph options clock g s) := bind_pure_apply _ _ s

theorem take_clear (s : Session σ τ) :
    take .clear s = mapResult (fun _ => .done) id (clear s) := bind_pure_apply _ _ s

theorem next_eq_reached (s : Session σ τ) (step : Step) : s.next step = reached (take step s) := by
  unfold next reached
  cases take step s <;> rfl

theorem after_snoc (s : Session σ τ) (history : List Step) (step : Step) :
    s.after (history ++ [step]) = (s.after history).next step := by
  simp [after, List.foldl_append]

/-- the first phase of a run -/
def prepareAll (options : RunOptions) (g : Graph) : SessionM σ τ Unit :=
  if options.materialize then materialize g.tensors.entries else pure ()

/-- a run is its two phases, and the figures of the second -/
theorem runGraph_apply (options : RunOptions) (clock : Clock) (g : Graph) (s : Session σ τ) :
    runGraph options clock g s = match prepareAll options g s with
      | .error e s₁ => .error e s₁
      | .ok () s₁ =>
        mapResult (fun figures => { figures with requests := (reached (runOperations options clock 0 ⟨0, 0, 0, .empty⟩
          g.operations s₁)).requests - s.requests, duration := clock.run }) id
          (runOperations options clock 0 ⟨0, 0, 0, .empty⟩ g.operations s₁) := by
  unfold runGraph prepareAll
  rw [bind_of_ok (show (get : SessionM σ τ (Session σ τ)) s = .ok s s from rfl)]
  dsimp only
  split
  · rw [bind_apply]
    cases materialize g.tensors.entries s with
    | error e s₁ => rfl
    | ok u s₁ =>
      dsimp only
      rw [bind_apply]
      cases runOperations options clock 0 ⟨0, 0, 0, .empty⟩ g.operations s₁ <;> rfl
  · rw [bind_apply]
    dsimp only [pure_apply]
    cases runOperations options clock 0 ⟨0, 0, 0, .empty⟩ g.operations s <;> rfl

/-! ## Phases of a run -/

section

variable {P : Session σ τ → Prop}

theorem keeps_performNamed (h : ∀ o op, Keeps P (perform o op)) (op : Operation) : Keeps P (performNamed op) := by
  unfold performNamed
  split
  · exact h _ op
  · exact Keeps.throw _

theorem keeps_runOperation (h : ∀ o op, Keeps P (perform o op)) (index : Nat) (op : Operation) :
    Keeps P (runOperation index op) := by
  intro s hs
  have hop := keeps_performNamed h op s hs
  unfold runOperation
  cases hp : performNamed op s <;> rw [hp] at hop <;> exact hop

theorem keeps_runOperations (h : ∀ o op, Keeps P (perform o op)) (options : RunOptions) (clock : Clock) (index : Nat)
    (figures : RunStatistics) (ops : List Operation) : Keeps P (runOperations options clock index figures ops) := by
  induction ops generalizing index figures with
  | nil => exact Keeps.pure _
  | cons op rest ih => exact (keeps_runOperation h index op).bind fun _ => ih _ _

omit [Handle τ] in
theorem keeps_prepare_of {t : Tensor} (hb : Keeps P (bindTensor t)) (hs : Keeps P (store t)) (key : String) :
    Keeps P (prepare key t) := by
  intro s h
  unfold prepare
  split
  · exact h
  · refine Keeps.bind hb (fun _ => ?_) s h
    split
    · exact hs
    · exact Keeps.pure _

omit [Handle τ] in
theorem keeps_prepare (hb : ∀ t, Keeps P (bindTensor t)) (hs : ∀ t, Keeps P (store t)) (key : String) (t : Tensor) :
    Keeps P (prepare key t) := keeps_prepare_of (hb t) (hs t) key

omit [Handle τ] in
/-- only the tensors that are prepared matter -/
theorem keeps_materialize_of_mem {entries : List (String × Tensor)} (hb : ∀ e ∈ entries, Keeps P (bindTensor e.2))
    (hs : ∀ e ∈ entries, Keeps P (store e.2)) : Keeps P (materialize entries) := by
  induction entries with
  | nil => exact Keeps.pure _
  | cons e rest ih =>
    refine (keeps_prepare_of (hb e List.mem_cons_self) (hs e List.mem_cons_self) e.1).bind fun _ => ih ?_ ?_
    · exact fun e' he' => hb e' (List.mem_cons_of_mem e he')
    · exact fun e' he' => hs e' (List.mem_cons_of_mem e he')

omit [Handle τ] in
theorem keeps_materialize (hb : ∀ t, Keeps P (bindTensor t)) (hs : ∀ t, Keeps P (store t))
    (entries : List (String × Tensor)) : Keeps P (materialize entries) :=
  keeps_materialize_of_mem (fun e _ => hb e.2) fun e _ => hs e.2

end

/-! ## Invariants -/

/-- a property that the five things that change a session keep -/
structure Invariant (P : Session σ τ → Prop) : Prop where
  bindTensor : ∀ t, Keeps P (bindTensor t)
  store : ∀ t, Keeps P (store t)
  load : ∀ t, Keeps P (load t)
  perform : ∀ o op, Keeps P (perform o op)
  clear : Keeps P clear

namespace Invariant

variable {P : Session σ τ → Prop}

theorem prepareAll (h : Invariant P) (options : RunOptions) (g : Graph) : Keeps P (prepareAll options g) := by
  unfold Session.prepareAll
  split
  · exact keeps_materialize h.bindTensor h.store g.tensors.entries
  · exact Keeps.pure _

theorem runGraph (h : Invariant P) (options : RunOptions) (clock : Clock) (g : Graph) :
    Keeps P (runGraph options clock g) := by
  intro s hs
  have h₁ := h.prepareAll options g s hs
  rw [runGraph_apply]
  cases hp : Session.prepareAll options g s with
  | error e s₁ => rw [hp] at h₁; exact h₁
  | ok u s₁ =>
    rw [hp] at h₁
    dsimp only
    rw [reached_mapResult]
    exact keeps_runOperations h.perform options clock 0 _ g.operations s₁ h₁

theorem take (h : Invariant P) (step : Step) : Keeps P (take step) := by
  cases step with
  | create t => exact (h.bindTensor t).bind fun _ => Keeps.pure _
  | write t => exact (h.store t).bind fun _ => Keeps.pure _
  | read t => exact (h.load t).bind fun _ => Keeps.pure _
  | perform o op => exact (h.perform o op).bind fun _ => Keeps.pure _
  | run options clock g => exact (h.runGraph options clock g).bind fun _ => Keeps.pure _
  | clear => exact h.clear.bind fun _ => Keeps.pure _

/-- what every step keeps is true after every history -/
theorem after (h : Invariant P) {s : Session σ τ} (hs : P s) (history : List Step) : P (s.after history) := by
  induction history generalizing s with
  | nil => exact hs
  | cons step rest ih => exact ih (by rw [next_eq_reached]; exact h.take step s hs)

end Invariant

end TensorGraph.Session
