/-
A run is the sequence of its parts.

Model: the operations of a run are one thing (`runFrom`), the figures about them another (`tally`). The number of an
operation only appears in the fault that it ends a run with.

Main results:
- `runFrom_append`, `runFrom_later`: operations run one list after the other, and numbers only appear in faults;
- `runGraph_error_at_iff`: a run fails at an operation if it `Reaches` it and the operation fails there;
- `run_append`: running a graph is running it with the first operations and then with the others.
-/
import TensorGraph.Engine.Recorder
import TensorGraph.Proofs.Materialization
import TensorGraph.Proofs.Motion

namespace TensorGraph

/-! ## Model -/

/-- the same fault in a run with `n` more operations before it -/
def RunError.later (n : Nat) : RunError → RunError
  | .operation index name cause => .operation (n + index) name cause
  | e => e

namespace RunStatistics

/-- figures with those of operations added, the first of which has number `index` -/
def tally (options : RunOptions) (clock : Clock) (index : Nat) (figures : RunStatistics) :
    List Operation → RunStatistics
  | [] => figures
  | op :: rest =>
    let elapsed := clock.operation index
    let perOperation :=
      if options.profiling then figures.perOperation.upsert op.name (.first elapsed) (·.record elapsed)
      else figures.perOperation
    tally options clock (index + 1)
      { figures with operationsExecuted := figures.operationsExecuted + 1, perOperation } rest

/-- how often operations of a name ran -/
def count (figures : RunStatistics) (name : String) : Nat :=
  ((figures.perOperation.find? name).map OperationTimes.count).getD 0

/-- the figures of a whole run of operations -/
def ofRun (options : RunOptions) (clock : Clock) (ops : List Operation) (requests : Nat) : RunStatistics :=
  { tally options clock 0 ⟨0, 0, 0, .empty⟩ ops with requests, duration := clock.run }

theorem tally_executed (options : RunOptions) (clock : Clock) (index : Nat) (figures : RunStatistics)
    (ops : List Operation) :
    (figures.tally options clock index ops).operationsExecuted = figures.operationsExecuted + ops.length := by
  induction ops generalizing index figures with
  | nil => rfl
  | cons op rest ih =>
    rw [tally, ih, List.length_cons]
    dsimp only
    omega

theorem count_upsert (figures : RunStatistics) (name key : String) (elapsed : Duration) :
    count { figures with perOperation := figures.perOperation.upsert name (.first elapsed) (·.record elapsed) } key =
      figures.count key + if name = key then 1 else 0 := by
  unfold count
  rw [NameMap.upsert, NameMap.find?_insert]
  by_cases h : key = name
  · subst h
    cases figures.perOperation.find? key <;> simp [OperationTimes.first, OperationTimes.record]
  · simp [h, Ne.symm h]

/-- names are counted if times are asked for -/
theorem tally_count (options : RunOptions) (clock : Clock) (index : Nat) (figures : RunStatistics)
    (ops : List Operation) (name : String) :
    (figures.tally options clock index ops).count name =
      figures.count name + if options.profiling then ops.countP (·.name = name) else 0 := by
  induction ops generalizing index figures with
  | nil => simp [tally]
  | cons op rest ih =>
    rw [tally, ih]
    cases options.profiling with
    | false => rfl
    | true =>
      rw [List.countP_cons]
      have h := count_upsert { figures with operationsExecuted := figures.operationsExecuted + 1 } op.name name
        (clock.operation index)
      simp only [count, decide_eq_true_eq, if_true] at h ⊢
      omega

theorem ofRun_executed (options : RunOptions) (clock : Clock) (ops : List Operation) (requests : Nat) :
    (ofRun options clock ops requests).operationsExecuted = ops.length := by
  rw [ofRun, tally_executed, Nat.zero_add]

theorem ofRun_count (options : RunOptions) (clock : Clock) (ops : List Operation) (requests : Nat) (name : String) :
    (ofRun options clock ops requests).count name =
      if options.profiling then ops.countP (·.name = name) else 0 := by
  have h := tally_count options clock 0 ⟨0, 0, 0, .empty⟩ ops name
  rwa [show count ⟨0, 0, 0, .empty⟩ name = 0 from rfl, Nat.zero_add] at h

end RunStatistics

namespace Session

variable {σ τ : Type} [Engine σ τ] [Handle τ]

/-! ## Operations, and figures about them -/

/-- run operations, the first of which has number `index` -/
def runFrom (index : Nat) : List Operation → SessionM σ τ Unit
  | [] => pure ()
  | op :: rest => do
    runOperation index op
    runFrom (index + 1) rest

/-- figures are about the operations, and do not change what they do -/
theorem runOperations_eq (options : RunOptions) (clock : Clock) (index : Nat) (figures : RunStatistics)
    (ops : List Operation) (s : Session σ τ) :
    runOperations options clock index figures ops s =
      mapResult (fun _ => figures.tally options clock index ops) id (runFrom index ops s) := by
  induction ops generalizing index figures s with
  | nil => rfl
  | cons op rest ih =>
    rw [runOperations, runFrom, bind_apply, bind_apply]
    cases runOperation index op s with
    | error e s₁ => rfl
    | ok u s₁ => exact ih _ _ s₁

/-- a run is preparation, then the operations -/
theorem runGraph_eq (options : RunOptions) (clock : Clock) (g : Graph) (s : Session σ τ) :
    runGraph options clock g s = match prepareAll options g s with
      | .error e s₁ => .error e s₁
      | .ok () s₁ => match runFrom 0 g.operations s₁ with
        | .error e s₂ => .error e s₂
        | .ok () s₂ => .ok (.ofRun options clock g.operations (s₂.requests - s.requests)) s₂ := by
  rw [runGraph_apply]
  cases prepareAll options g s with
  | error e s₁ => rfl
  | ok u s₁ =>
    dsimp only
    rw [runOperations_eq]
    cases runFrom 0 g.operations s₁ <;> rfl

theorem runGraph_of_ok {options : RunOptions} {g : Graph} {s s₁ s₂ : Session σ τ}
    (hprep : prepareAll options g s = .ok () s₁) (hops : runFrom 0 g.operations s₁ = .ok () s₂) (clock : Clock) :
    runGraph options clock g s = .ok (.ofRun options clock g.operations (s₂.requests - s.requests)) s₂ := by
  rw [runGraph_eq, hprep]
  dsimp only
  rw [hops]

theorem runGraph_of_error {options : RunOptions} {g : Graph} {s s₁ s₂ : Session σ τ} {e : RunError}
    (hprep : prepareAll options g s = .ok () s₁) (hops : runFrom 0 g.operations s₁ = .error e s₂) (clock : Clock) :
    runGraph options clock g s = .error e s₂ := by
  rw [runGraph_eq, hprep]
  dsimp only
  rw [hops]

theorem keeps_runFrom {P : Session σ τ → Prop} (h : ∀ o op, Keeps P (perform o op)) (index : Nat)
    (ops : List Operation) : Keeps P (runFrom index ops) := by
  induction ops generalizing index with
  | nil => exact Keeps.pure _
  | cons op rest ih => exact (keeps_runOperation h index op).bind fun _ => ih _

/-- operations run one list after the other -/
theorem runFrom_append (index : Nat) (A B : List Operation) (s : Session σ τ) :
    runFrom index (A ++ B) s = match runFrom index A s with
      | .error e s₁ => .error e s₁
      | .ok () s₁ => runFrom (index + A.length) B s₁ := by
  induction A generalizing index s with
  | nil => rfl
  | cons op rest ih =>
    rw [List.cons_append, runFrom, runFrom, bind_apply, bind_apply]
    cases runOperation index op s with
    | error e s₁ => rfl
    | ok u s₁ =>
      dsimp only
      rw [ih, List.length_cons, Nat.add_right_comm, Nat.add_assoc index]

/-- the first of some operations that go well goes well -/
theorem runFrom_cons_ok {index : Nat} {op : Operation} {rest : List Operation} {s s' : Session σ τ} {u : Unit}
    (h : runFrom index (op :: rest) s = .ok u s') :
    ∃ s₁, performNamed op s = .ok () s₁ ∧ runFrom (index + 1) rest s₁ = .ok () s' := by
  rw [runFrom, bind_apply, runOperation] at h
  cases hop : performNamed op s with
  | error e s₁ => rw [hop] at h; cases h
  | ok v s₁ => rw [hop] at h; exact ⟨s₁, rfl, h⟩

/-- the beginning of operations that go well goes well -/
theorem runFrom_append_ok {index : Nat} {A B : List Operation} {s s' : Session σ τ} {u : Unit}
    (h : runFrom index (A ++ B) s = .ok u s') :
    ∃ s₁, runFrom index A s = .ok () s₁ ∧ runFrom (index + A.length) B s₁ = .ok () s' := by
  rw [runFrom_append] at h
  cases hA : runFrom index A s with
  | error e s₁ => rw [hA] at h; cases h
  | ok v s₁ => rw [hA] at h; exact ⟨s₁, rfl, h⟩

/-- a run that goes well prepared its tensors and ran its operations -/
theorem runGraph_ok {options : RunOptions} {clock : Clock} {g : Graph} {s s' : Session σ τ} {figures : RunStatistics}
    (h : runGraph options clock g s = .ok figures s') :
    ∃ s₁, prepareAll options g s = .ok () s₁ ∧ runFrom 0 g.operations s₁ = .ok () s' ∧
      figures = .ofRun options clock g.operations (s'.requests - s.requests) := by
  rw [runGraph_eq] at h
  cases hprep : prepareAll options g s with
  | error e s₁ => rw [hprep] at h; cases h
  | ok u s₁ =>
    rw [hprep] at h
    dsimp only at h
    cases hops : runFrom 0 g.operations s₁ with
    | error e s₂ => rw [hops] at h; cases h
    | ok v s₂ => rw [hops] at h; cases h; exact ⟨s₁, rfl, hops, rfl⟩

theorem runOperation_later (n index : Nat) (op : Operation) (s : Session σ τ) :
    runOperation (n + index) op s = match runOperation index op s with
      | .error e s₁ => .error (e.later n) s₁
      | .ok () s₁ => .ok () s₁ := by
  unfold runOperation
  cases performNamed op s <;> rfl

/-- numbers only appear in faults -/
theorem runFrom_later (n index : Nat) (ops : List Operation) (s : Session σ τ) :
    runFrom (n + index) ops s = match runFrom index ops s with
      | .error e s₁ => .error (e.later n) s₁
      | .ok () s₁ => .ok () s₁ := by
  induction ops generalizing index s with
  | nil => rfl
  | cons op rest ih =>
    rw [runFrom, runFrom, bind_apply, bind_apply, runOperation_later]
    cases runOperation index op s with
    | error e s₁ => rfl
    | ok u s₁ => exact ih (index + 1) s₁

/-- operations fail at one of them: those before it ran, and the fault is its own -/
theorem runFrom_error {index : Nat} {ops : List Operation} {s s' : Session σ τ} {e : RunError}
    (h : runFrom index ops s = .error e s') :
    ∃ i op cause s₁, ops[i]? = some op ∧ runFrom index (ops.take i) s = .ok () s₁ ∧
      performNamed op s₁ = .error cause s' ∧ e = .operation (index + i) op.name cause := by
  induction ops generalizing index s with
  | nil => cases h
  | cons op rest ih =>
    rw [runFrom, bind_apply] at h
    cases hp : performNamed op s with
    | error cause s₁ =>
      rw [runOperation, hp] at h
      cases h
      exact ⟨0, op, cause, s, rfl, rfl, hp, rfl⟩
    | ok u s₁ =>
      have hop : runOperation index op s = .ok () s₁ := by rw [runOperation, hp]
      rw [hop] at h
      obtain ⟨i, op', cause, s₂, hi, hbefore, hfails, rfl⟩ := ih h
      refine ⟨i + 1, op', cause, s₂, hi, ?_, hfails, ?_⟩
      · rw [List.take_succ_cons, runFrom, bind_of_ok hop]
        exact hbefore
      · rw [Nat.add_assoc, Nat.add_comm 1]

/-! ## How far a run gets -/

/-- the tensors of a graph are prepared, and its operations before the one of a number run well and leave `s'` -/
def Reaches (options : RunOptions) (g : Graph) (s : Session σ τ) (index : Nat) (s' : Session σ τ) : Prop :=
  ∃ s₁, prepareAll options g s = .ok () s₁ ∧ runFrom 0 (g.operations.take index) s₁ = .ok () s'

/-- that is, the operations before it are a run that goes well -/
theorem reaches_iff {options : RunOptions} {g : Graph} {s s' : Session σ τ} {index : Nat} (clock : Clock) :
    Reaches options g s index s' ↔ ∃ figures,
      runGraph options clock { g with operations := g.operations.take index } s = .ok figures s' := by
  constructor
  · rintro ⟨s₁, hprep, hops⟩
    exact ⟨_, runGraph_of_ok (g := { g with operations := g.operations.take index }) hprep hops clock⟩
  · rintro ⟨figures, h⟩
    obtain ⟨s₁, hprep, hops, -⟩ := runGraph_ok h
    exact ⟨s₁, hprep, hops⟩

/-- a run fails at an operation exactly if it reaches it and the operation fails there -/
theorem runGraph_error_at_iff {options : RunOptions} {clock : Clock} {g : Graph} {s s' : Session σ τ} {index : Nat}
    {op : Operation} (hop : g.operations[index]? = some op) {name : String} {cause : RunError} :
    runGraph options clock g s = .error (.operation index name cause) s' ↔
      ∃ s₁, Reaches options g s index s₁ ∧ performNamed op s₁ = .error cause s' ∧ name = op.name := by
  constructor
  · intro h
    rw [runGraph_eq] at h
    cases hprep : prepareAll options g s with
    | error e s₁ =>
      rw [hprep] at h
      cases h
      cases (Elementary.prepareAll (M := .counting) options g).unwrapped s _ (congrArg fault? hprep)
    | ok u s₁ =>
      rw [hprep] at h
      dsimp only at h
      cases hops : runFrom 0 g.operations s₁ with
      | ok v s₂ => rw [hops] at h; cases h
      | error e s₂ =>
        rw [hops] at h
        cases h
        obtain ⟨i, op', cause', s₂, hop', hbefore, hfails, heq⟩ := runFrom_error hops
        obtain ⟨rfl, rfl, rfl⟩ := RunError.operation.inj heq
        rw [Nat.zero_add, hop'] at hop
        cases hop
        rw [Nat.zero_add]
        exact ⟨s₂, ⟨s₁, hprep, hbefore⟩, hfails, rfl⟩
  · rintro ⟨s₁, ⟨s₀, hprep, hbefore⟩, hfails, rfl⟩
    obtain ⟨hlt, hget⟩ := List.getElem?_eq_some_iff.1 hop
    have hsplit : g.operations = g.operations.take index ++ op :: g.operations.drop (index + 1) := by
      rw [← hget, ← List.drop_eq_getElem_cons hlt, List.take_append_drop]
    refine runGraph_of_error hprep ?_ clock
    rw [hsplit, runFrom_append, hbefore, List.length_take_of_le hlt.le, Nat.zero_add]
    dsimp only
    rw [runFrom, bind_apply, runOperation, hfails]

/-- what preparing and operations keep is true wherever a run gets -/
theorem kept_of_reaches {P : Session σ τ → Prop} {options : RunOptions} {g : Graph}
    (hprepare : Keeps P (prepareAll options g)) (hperform : ∀ o op, Keeps P (perform o op)) {s s' : Session σ τ}
    {index : Nat} (h : Reaches options g s index s') (hs : P s) : P s' := by
  obtain ⟨s₁, hprep, hops⟩ := h
  have h₁ := hprepare s hs
  rw [hprep] at h₁
  have h₂ := keeps_runFrom hperform 0 (g.operations.take index) s₁ h₁
  rwa [hops] at h₂

theorem keeps_runGraph {P : Session σ τ → Prop} {options : RunOptions} {g : Graph}
    (hprepare : Keeps P (prepareAll options g)) (hperform : ∀ o op, Keeps P (perform o op)) (clock : Clock) :
    Keeps P (runGraph options clock g) := by
  intro s hs
  have h₁ := hprepare s hs
  rw [runGraph_eq]
  cases hprep : prepareAll options g s with
  | error e s₁ => rwa [hprep] at h₁
  | ok u s₁ =>
    rw [hprep] at h₁
    have h₂ := keeps_runFrom hperform 0 g.operations s₁ h₁
    dsimp only
    cases hops : runFrom 0 g.operations s₁ <;> rw [hops] at h₂ <;> exact h₂

/-! ## Two runs in a row -/

theorem requests_runFrom (index : Nat) (ops : List Operation) (s : Session σ τ) :
    s.requests ≤ (reached (runFrom index ops s)).requests :=
  keeps_runFrom (P := fun s' => s.requests ≤ s'.requests)
    (fun o op s' hs' => hs'.trans ((Elementary.perform Elementary.issue o op).moves s')) index ops s (Nat.le_refl _)

theorem bindings_runFrom (index : Nat) (ops : List Operation) (s : Session σ τ) :
    (reached (runFrom index ops s)).bindings = s.bindings :=
  keeps_runFrom (P := fun s' => s'.bindings = s.bindings) (fun o op s' hs' => (perform_names o op s').1.trans hs') index
    ops s rfl

/-- what preparation left needs no second one, whatever operations ran in between -/
theorem prepareAll_again {options : RunOptions} {g : Graph} (hg : g.KeepsOwnNames) {s s₁ s₂ : Session σ τ} {u : Unit}
    {ops : List Operation} (hprep : prepareAll options g s = .ok u s₁) (hops : runFrom 0 ops s₁ = .ok () s₂) :
    prepareAll options g s₂ = .ok () s₂ := by
  unfold prepareAll at hprep ⊢
  split
  · rename_i hopt
    rw [if_pos hopt] at hprep
    have hnames := bindings_runFrom 0 ops s₁
    rw [hops, reached_ok] at hnames
    refine materialize_of_bound fun e he => ?_
    have hbound := bound_of_materialize hg hprep e he
    rw [isBound] at hbound ⊢
    rwa [hnames]
  · rfl

/-- the first part of a run fails as the whole run does, and the second part only at an operation; if both go well, their
figures add up -/
theorem runGraph_parts {g : Graph} {A B : List Operation} (hg : g.KeepsOwnNames) (h : g.operations = A ++ B)
    (options : RunOptions) (clock clock₁ clock₂ : Clock) (s : Session σ τ) :
    match runGraph options clock₁ { g with operations := A } s with
    | .error e s₁ => runGraph options clock g s = .error e s₁
    | .ok figures₁ s₁ =>
      match runGraph options clock₂ { g with operations := B } s₁ with
      | .error e s₂ => ∃ index name cause, e = .operation index name cause ∧
          runGraph options clock g s = .error (.operation (A.length + index) name cause) s₂
      | .ok figures₂ s₂ => ∃ figures, runGraph options clock g s = .ok figures s₂ ∧
          figures.operationsExecuted = figures₁.operationsExecuted + figures₂.operationsExecuted ∧
          figures.requests = figures₁.requests + figures₂.requests ∧
          ∀ name, figures.count name = figures₁.count name + figures₂.count name := by
  cases hprep : prepareAll options g s with
  | error e s₀ =>
    have hprepA : prepareAll options { g with operations := A } s = .error e s₀ := hprep
    rw [runGraph_eq options clock₁, hprepA, runGraph_eq, hprep]
  | ok u s₀ =>
    have hprepA : prepareAll options { g with operations := A } s = .ok () s₀ := hprep
    have hops := runFrom_append 0 A B s₀
    rw [← h, Nat.zero_add] at hops
    cases hA : runFrom 0 A s₀ with
    | error e s₁ =>
      rw [hA] at hops
      rw [runGraph_of_error hprepA hA]
      exact runGraph_of_error hprep hops clock
    | ok v s₁ =>
      -- the second run finds every tensor bound, and counts its operations from zero again
      have hprepB : prepareAll options { g with operations := B } s₁ = .ok () s₁ := prepareAll_again hg hprep hA
      have hlater := runFrom_later A.length 0 B s₁
      rw [hA] at hops
      rw [runGraph_of_ok hprepA hA]
      dsimp only at hops ⊢
      rw [← Nat.add_zero A.length, hlater] at hops
      cases hB : runFrom 0 B s₁ with
      | error e s₂ =>
        obtain ⟨i, op, cause, s₃, -, -, -, rfl⟩ := runFrom_error hB
        rw [hB] at hops
        rw [runGraph_of_error hprepB hB]
        exact ⟨0 + i, op.name, cause, rfl, runGraph_of_error hprep hops clock⟩
      | ok w s₂ =>
        rw [hB] at hops
        rw [runGraph_of_ok hprepB hB]
        refine ⟨_, runGraph_of_ok hprep hops clock, ?_, ?_, fun name => ?_⟩
        · rw [RunStatistics.ofRun_executed, RunStatistics.ofRun_executed, RunStatistics.ofRun_executed, h,
            List.length_append]
        · -- the counts of requests after the parts are in order, so their differences add up
          have hs₀ : s.requests ≤ _ := (Elementary.prepareAll options g).moves (M := .counting) s
          have hs₁ := requests_runFrom 0 A s₀
          have hs₂ := requests_runFrom 0 B s₁
          rw [hprep, reached_ok] at hs₀
          rw [hA, reached_ok] at hs₁
          rw [hB, reached_ok] at hs₂
          simp only [RunStatistics.ofRun]
          omega
        · rw [RunStatistics.ofRun_count, RunStatistics.ofRun_count, RunStatistics.ofRun_count, h, List.countP_append]
          split <;> rfl

/-- a run fails while tensors are prepared, or at an operation on what the run of those before it left -/
theorem runGraph_error {options : RunOptions} {clock : Clock} {g : Graph} {s s' : Session σ τ} {e : RunError}
    (h : runGraph options clock g s = .error e s') :
    (prepareAll options g s = .error e s' ∧ e.isOperation = false) ∨
      ∃ index op cause figures s₁, g.operations[index]? = some op ∧
        runGraph options clock { g with operations := g.operations.take index } s = .ok figures s₁ ∧
        performNamed op s₁ = .error cause s' ∧ cause.isOperation = false ∧ e = .operation index op.name cause := by
  rw [runGraph_eq] at h
  cases hprep : prepareAll options g s with
  | error e₀ s₀ =>
    rw [hprep] at h
    cases h
    exact Or.inl ⟨rfl, (Elementary.prepareAll (M := .counting) options g).unwrapped s e (congrArg fault? hprep)⟩
  | ok u s₀ =>
    rw [hprep] at h
    dsimp only at h
    cases hops : runFrom 0 g.operations s₀ with
    | ok v s₁ => rw [hops] at h; cases h
    | error e₁ s₁ =>
      rw [hops] at h
      cases h
      obtain ⟨i, op, cause, s₂, hi, hbefore, hfails, rfl⟩ := runFrom_error hops
      have hown := (Elementary.performNamed Elementary.issue op).unwrapped s₂ cause (congrArg fault? hfails)
      have hprefix : prepareAll options { g with operations := g.operations.take i } s = .ok () s₀ := hprep
      exact Or.inr ⟨i, op, cause, _, s₂, hi, runGraph_of_ok hprefix hbefore clock, hfails, hown, by rw [Nat.zero_add]⟩

/-- **A run is the sequence of its parts.** Split the operations of a graph in two in any way. If the run of the first
part fails, the whole run fails alike. If not, the run of the second part is made on what the first one left: it can
only fail at an operation, and the whole run then fails at that operation, counted on, in the same state; if it goes
well, so does the whole run, in the same state and with figures that are the sums. And if a run fails, then either the
tensors could not be prepared, and the fault is not about an operation, or it is about one operation: what comes before
it ran well on its own, and the fault has its number, its name and the fault that it reports itself. -/
theorem run_append {g : Graph} {A B : List Operation} (hg : g.KeepsOwnNames) (h : g.operations = A ++ B)
    (options : RunOptions) (clock clock₁ clock₂ : Clock) (s : Session σ τ) :
    (match runGraph options clock₁ { g with operations := A } s with
      | .error e s₁ => runGraph options clock g s = .error e s₁
      | .ok figures₁ s₁ =>
        match runGraph options clock₂ { g with operations := B } s₁ with
        | .error e s₂ => ∃ index name cause, e = .operation index name cause ∧
            runGraph options clock g s = .error (.operation (A.length + index) name cause) s₂
        | .ok figures₂ s₂ => ∃ figures, runGraph options clock g s = .ok figures s₂ ∧
            figures.operationsExecuted = figures₁.operationsExecuted + figures₂.operationsExecuted ∧
            figures.requests = figures₁.requests + figures₂.requests ∧
            ∀ name, figures.count name = figures₁.count name + figures₂.count name) ∧
    ∀ e s', runGraph options clock g s = .error e s' →
      (prepareAll options g s = .error e s' ∧ e.isOperation = false) ∨
      ∃ index op cause figures s₁, g.operations[index]? = some op ∧
        runGraph options clock { g with operations := g.operations.take index } s = .ok figures s₁ ∧
        performNamed op s₁ = .error cause s' ∧ cause.isOperation = false ∧ e = .operation index op.name cause :=
  ⟨runGraph_parts hg h options clock clock₁ clock₂ s, fun _ _ => runGraph_error⟩

/-- a graph with an unknown operation after a known one, which runs before the run fails -/
theorem run_append_of_unknown :
    let known := ((Operation.named "copy" .float).withInput "x" (.identifier "x")).withOutput "y" (.identifier "y")
    let unknown := Operation.named "nope" .float
    let g : Graph := ⟨"g", [known, unknown], .ofList [("x", ⟨"x", .float, [2], none⟩), ("y", ⟨"y", .float, [2], none⟩)]⟩
    let s : Session Recorder BufferRef := start .fresh
    g.KeepsOwnNames ∧ g.operations = [known] ++ [unknown] ∧
      ∃ s', runGraph default Clock.still g s = .error (.operation 1 "nope" (.unknownOperation "nope")) s' ∧
        ∃ figures s₁, runGraph default Clock.still { g with operations := [known] } s = .ok figures s₁ ∧
          performNamed unknown s₁ = .error (.unknownOperation "nope") s' := by
  intro known unknown g s
  have hg : g.KeepsOwnNames := by decide +kernel
  have hfault : fault? (runGraph default Clock.still g s) = some (.operation 1 "nope" (.unknownOperation "nope")) := by
    decide +kernel
  refine ⟨hg, rfl, ?_⟩
  cases hrun : runGraph default Clock.still g s with
  | ok figures s' => rw [hrun] at hfault; cases hfault
  | error e s' =>
    rw [hrun] at hfault
    obtain rfl : e = .operation 1 "nope" (.unknownOperation "nope") := Option.some.inj hfault
    have hparts := run_append (A := [known]) (B := [unknown]) hg rfl default Clock.still Clock.still Clock.still s
    rcases hparts.2 _ s' hrun with ⟨-, hno⟩ | ⟨index, op, cause, figures, s₁, hop, hbefore, hfails, -, heq⟩
    · cases hno
    · obtain ⟨rfl, -, rfl⟩ := RunError.operation.inj heq
      obtain rfl : unknown = op := Option.some.inj hop
      exact ⟨s', rfl, figures, s₁, hbefore, hfails⟩

end Session

end TensorGraph
