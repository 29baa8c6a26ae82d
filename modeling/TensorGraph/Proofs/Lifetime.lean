/-
What becomes of names in the life of a session on a recorder.

Model: a name is taken from the first creation that goes well until the end of the session. Which creations went well is
read off the history (`createdAfter`); the session itself only keeps what is bound and what was cleared.

Main results:
- `bound_at_most_once`: creating a tensor is refused as a duplicate exactly if a creation of its name went well before;
- `reserved_after`: names are reserved by clearing and by nothing else.
-/
import TensorGraph.Proofs.Agreement

namespace TensorGraph.Session

/-! ## Reserved names -/

section

variable {σ τ : Type} [Engine σ τ]

theorem bindTensor_reserved (t : Tensor) (s : Session σ τ) : (reached (bindTensor t s)).reserved = s.reserved := by
  rcases bindTensor_cases t s with ⟨-, h⟩ | ⟨-, -, h⟩ | ⟨-, -, ⟨why, e, -, h⟩ | ⟨u, e, -, h⟩⟩ <;> rw [h] <;> rfl

variable [Handle τ]

theorem next_reserved {step : Step} (hstep : step ≠ .clear) (s : Session σ τ) :
    (s.next step).reserved = s.reserved := by
  have hbind : ∀ t, Keeps (fun s' : Session σ τ => s'.reserved = s.reserved) (bindTensor t) :=
    fun t s' hs' => (bindTensor_reserved t s').trans hs'
  have hstore : ∀ t, Keeps (fun s' : Session σ τ => s'.reserved = s.reserved) (store t) :=
    fun t s' hs' => (store_names t s').2.trans hs'
  have hperform : ∀ o op, Keeps (fun s' : Session σ τ => s'.reserved = s.reserved) (perform o op) :=
    fun o op s' hs' => (perform_names o op s').2.trans hs'
  rw [next_eq_reached]
  cases step with
  | create t =>
    rw [take_create, reached_mapResult]
    exact hbind t s rfl
  | write t =>
    rw [take_write, reached_mapResult]
    exact hstore t s rfl
  | read t =>
    rw [take_read, reached_mapResult]
    exact (load_names t s).2
  | perform o op =>
    rw [take_perform, reached_mapResult]
    exact hperform o op s rfl
  | run options clock g =>
    have hprepare : (reached (prepareAll options g s)).reserved = s.reserved := by
      unfold prepareAll
      split
      · exact keeps_materialize hbind hstore g.tensors.entries s rfl
      · rfl
    rw [take_run, reached_mapResult, runGraph_apply]
    cases hp : prepareAll options g s with
    | error e s₁ => rwa [hp] at hprepare
    | ok u s₁ =>
      rw [hp] at hprepare
      dsimp only
      rw [reached_mapResult]
      exact keeps_runOperations hperform options clock 0 _ g.operations s₁ hprepare
  | clear => exact absurd rfl hstep

/-- a history that never clears reserves no name -/
theorem reserved_after {history : List Step} (h : Step.clear ∉ history) (s : Session σ τ) :
    (s.after history).reserved = s.reserved := by
  induction history generalizing s with
  | nil => rfl
  | cons step rest ih =>
    have hstep : step ≠ .clear := fun heq => h (heq ▸ List.mem_cons_self)
    have hrest : Step.clear ∉ rest := fun hmem => h (List.mem_cons_of_mem step hmem)
    exact (ih hrest (s.next step)).trans (next_reserved hstep s)

end

/-! ## Creations -/

/-- a creation that fails changes neither names nor storage -/
theorem bindTensor_error {t : Tensor} {s s' : Session Recorder BufferRef} {e : RunError}
    (h : bindTensor t s = .error e s') :
    s'.bindings = s.bindings ∧ s'.reserved = s.reserved ∧ s'.engine = s.engine := by
  rcases bindTensor_cases t s with ⟨-, hb⟩ | ⟨-, -, hb⟩ | ⟨-, -, ⟨why, r, hal, hb⟩ | ⟨u, r, -, hb⟩⟩
  · rw [hb] at h
    cases h
    exact ⟨rfl, rfl, rfl⟩
  · rw [hb] at h
    cases h
    exact ⟨rfl, rfl, rfl⟩
  · have hr : r = s.engine := by
      rw [Recorder.engine_allocate, Recorder.inWords_apply] at hal
      cases ha : Recorder.allocate t.kind t.shape s.engine with
      | ok u r' => rw [ha] at hal; cases hal
      | error f r' =>
        rw [ha] at hal
        cases hal
        exact Recorder.atomic_allocate t.kind t.shape s.engine f r ha
    rw [hb] at h
    cases h
    exact ⟨rfl, rfl, hr⟩
  · rw [hb] at h
    cases h

/-- **A name is bound at most once.** Take any session on a recorder, whatever its history, clearing and faults included,
and whichever primitive always fails. No two creations of one name went well, those of materialization included, and
creating a tensor is refused as a duplicate if and only if a creation of its name went well before. If it is not, it
is refused for its kind if and only if that is the open one, and then nothing at all has changed. Whenever it fails,
bindings, reserved names and the recorder with its buffers are as before. -/
theorem bound_at_most_once (failOn : Option String) (history : List Step) (t : Tensor) :
    let s := (fresh failOn).after history
    let created := createdAfter (fresh failOn) history
    let result := bindTensor t s
    (created.map Tensor.name).Nodup ∧
      (fault? result = some (.duplicateTensor t.name) ↔ ∃ t' ∈ created, t'.name = t.name) ∧
      (fault? result ≠ some (.duplicateTensor t.name) →
        ((∃ subject kind, fault? result = some (.unsupportedKind subject kind)) ↔ t.kind = .generic) ∧
        (t.kind = .generic → result = .error (.unsupportedKind t.name .generic) s)) ∧
      ∀ e s', result = .error e s' →
        s'.bindings = s.bindings ∧ s'.reserved = s.reserved ∧ s'.engine = s.engine := by
  intro s created result
  have hcreated : Registered created s := registered_after Recorder.honestHandles _ history
  refine ⟨hcreated.distinct, ?_, fun hnew => ?_, fun e s' => bindTensor_error⟩
  · rw [← hcreated.taken t.name]
    rcases bindTensor_cases t s with ⟨hold, h⟩ | ⟨hnew, -, h⟩ | ⟨hnew, -, ⟨why, e, -, h⟩ | ⟨u, e, -, h⟩⟩
    · exact ⟨fun _ => hold, fun _ => congrArg fault? h⟩
    all_goals
      rw [show result = _ from h, hnew]
      simp
  · rcases bindTensor_cases t s with ⟨-, h⟩ | ⟨-, hopen, h⟩ | ⟨-, hkind, ⟨why, e, -, h⟩ | ⟨u, e, -, h⟩⟩
    · exact absurd (congrArg fault? h) hnew
    · have hgeneric := ElementKind.isConcrete_eq_false_iff.1 hopen
      rw [hgeneric] at h
      exact ⟨⟨fun _ => hgeneric, fun _ => ⟨_, _, congrArg fault? h⟩⟩, fun _ => h⟩
    all_goals
      have hnot := ElementKind.isConcrete_iff.1 hkind
      rw [show result = _ from h]
      simp [hnot]

end TensorGraph.Session
