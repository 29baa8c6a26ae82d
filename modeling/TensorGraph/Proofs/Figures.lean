/-
What the figures of a run say about its graph.

Model: the figures per operation are a map from names, of which only the counts depend on the graph alone. They are put
together one operation at a time, and so are the counts of a graph, so one map follows the other.

Main results:
- `Graph.find?_operationCounts`, `Graph.sum_operationCounts`: a graph counts each name as often as it occurs, and every
  operation once;
- `RunStatistics.perOperation_ofRun`: with times, a run counts operations as its graph does;
- `Session.runGraph_profiling`: without times, nothing but these figures is missing.
-/
import TensorGraph.Proofs.Composition

namespace TensorGraph

/-! ## Operations of a graph -/

/-- one more name among the counts -/
theorem NameMap.sum_upsert (m : NameMap Nat) (name : String) :
    (m.upsert name 1 (· + 1)).values.sum = m.values.sum + 1 := by
  unfold upsert
  cases h : m.find? name with
  | none =>
    have hsum := (values_insert_perm 1 h).sum_eq
    rw [List.sum_cons] at hsum
    exact hsum.trans (Nat.add_comm _ _)
  | some n =>
    have hsum := (values_insert_perm_of_some (n + 1) h).sum_eq
    rw [List.sum_cons, List.sum_cons] at hsum
    dsimp only
    omega

namespace Graph

/-- the counts with those of more operations added -/
def countFrom (counts : NameMap Nat) (ops : List Operation) : NameMap Nat :=
  ops.foldl (fun counts op => counts.upsert op.name 1 (· + 1)) counts

theorem countFrom_cons (counts : NameMap Nat) (op : Operation) (rest : List Operation) :
    countFrom counts (op :: rest) = countFrom (counts.upsert op.name 1 (· + 1)) rest := rfl

theorem operationCounts_eq (g : Graph) : g.operationCounts = countFrom .empty g.operations := rfl

theorem sum_countFrom (counts : NameMap Nat) (ops : List Operation) :
    (countFrom counts ops).values.sum = counts.values.sum + ops.length := by
  induction ops generalizing counts with
  | nil => rfl
  | cons op rest ih =>
    rw [countFrom_cons, ih, NameMap.sum_upsert, List.length_cons]
    omega

theorem find?_countFrom (counts : NameMap Nat) (ops : List Operation) (name : String) :
    (countFrom counts ops).find? name =
      if ops.countP (·.name = name) = 0 then counts.find? name
      else some ((counts.find? name).getD 0 + ops.countP (·.name = name)) := by
  induction ops generalizing counts with
  | nil => rfl
  | cons op rest ih =>
    rw [countFrom_cons, ih, NameMap.upsert, NameMap.find?_insert, List.countP_cons]
    by_cases hname : op.name = name
    · subst hname
      by_cases hrest : rest.countP (·.name = op.name) = 0
      · cases counts.find? op.name <;> simp [hrest]
      · cases counts.find? op.name <;> simp [hrest] <;> omega
    · simp [hname, Ne.symm hname]

/-- a name that occurs is counted as often as it does -/
theorem find?_operationCounts (g : Graph) (name : String) :
    g.operationCounts.find? name =
      if g.operations.countP (·.name = name) = 0 then none else some (g.operations.countP (·.name = name)) := by
  rw [operationCounts_eq, find?_countFrom, NameMap.find?_empty, Option.getD_none, Nat.zero_add]

theorem contains_operationCounts (g : Graph) (name : String) :
    g.operationCounts.contains name = true ↔ ∃ op ∈ g.operations, op.name = name := by
  rw [NameMap.contains, find?_operationCounts]
  by_cases h : ∃ op ∈ g.operations, op.name = name
  · have hpos : g.operations.countP (·.name = name) ≠ 0 := by simpa [List.countP_eq_zero] using h
    simp [hpos, h]
  · have hzero : g.operations.countP (·.name = name) = 0 := by simpa [List.countP_eq_zero] using h
    simp [hzero, h]

/-- every operation is counted under one name -/
theorem sum_operationCounts (g : Graph) : g.operationCounts.values.sum = g.operations.length := by
  rw [operationCounts_eq, sum_countFrom]
  exact Nat.zero_add _

end Graph

/-! ## Figures -/

namespace RunStatistics

/-- with times, operations are counted as a graph counts them -/
theorem perOperation_tally (options : RunOptions) (clock : Clock) (index : Nat) (figures : RunStatistics)
    (ops : List Operation) (h : options.profiling = true) :
    (figures.tally options clock index ops).perOperation.map OperationTimes.count =
      Graph.countFrom (figures.perOperation.map OperationTimes.count) ops := by
  induction ops generalizing index figures with
  | nil => rfl
  | cons op rest ih =>
    have hupsert := NameMap.map_upsert (f := OperationTimes.count) (g := (·.record (clock.operation index)))
      (k := (· + 1)) (fun _ => rfl) figures.perOperation op.name (.first (clock.operation index))
    rw [tally, ih, Graph.countFrom_cons, if_pos h]
    exact congrArg (Graph.countFrom · rest) hupsert

/-- the figures of a run with times count what the graph counts -/
theorem perOperation_ofRun (options : RunOptions) (clock : Clock) (g : Graph) (requests : Nat)
    (h : options.profiling = true) :
    (ofRun options clock g.operations requests).perOperation.map OperationTimes.count = g.operationCounts :=
  perOperation_tally options clock 0 ⟨0, 0, 0, .empty⟩ g.operations h

/-- times only show in the figures per operation -/
theorem tally_profiling (options : RunOptions) (clock : Clock) (index : Nat) (figures : RunStatistics)
    (m : NameMap OperationTimes) (ops : List Operation) :
    tally { options with profiling := false } clock index { figures with perOperation := m } ops =
      { tally { options with profiling := true } clock index figures ops with perOperation := m } := by
  induction ops generalizing index figures with
  | nil => rfl
  | cons op rest ih => exact ih (index + 1) { figures with
      operationsExecuted := figures.operationsExecuted + 1
      perOperation := figures.perOperation.upsert op.name (.first (clock.operation index))
        (·.record (clock.operation index)) }

/-- without times there are no figures per operation -/
theorem perOperation_ofRun_of_untimed (options : RunOptions) (clock : Clock) (ops : List Operation) (requests : Nat)
    (h : options.profiling = false) : (ofRun options clock ops requests).perOperation = .empty := by
  obtain ⟨profiling, materialize⟩ := options
  obtain rfl : profiling = false := h
  exact congrArg perOperation (tally_profiling ⟨false, materialize⟩ clock 0 ⟨0, 0, 0, .empty⟩ .empty ops)

end RunStatistics

namespace Session

variable {σ τ : Type} [Engine σ τ] [Handle τ]

/-- a run without times does what the run with times does, and has its other figures -/
theorem runGraph_profiling (options : RunOptions) (clock : Clock) (g : Graph) (s : Session σ τ) :
    runGraph { options with profiling := false } clock g s =
      mapResult (fun figures => { figures with perOperation := .empty }) id
        (runGraph { options with profiling := true } clock g s) := by
  rw [runGraph_eq, runGraph_eq]
  have hprepare : prepareAll { options with profiling := false } g s =
      prepareAll { options with profiling := true } g s := rfl
  rw [hprepare]
  cases prepareAll { options with profiling := true } g s with
  | error e s₁ => rfl
  | ok u s₁ =>
    dsimp only
    cases runFrom 0 g.operations s₁ with
    | error e s₂ => rfl
    | ok v s₂ =>
      refine congrArg (EStateM.Result.ok · s₂) ?_
      have htally := RunStatistics.tally_profiling options clock 0 ⟨0, 0, 0, .empty⟩ .empty g.operations
      unfold RunStatistics.ofRun
      rw [htally]

end Session

end TensorGraph
