/-
Which graph a list of declarations builds, and when.

Model: a list of declarations is looked at through the tensors and the operations in it, each in their order. If the
names of the tensors are distinct, they make one graph (`Graph.declared`), whatever stands between them. The draft that
is put together step by step is that graph, or remembers the first name that was taken.

Main result: `build_by_declarations`.
-/
import TensorGraph.Proofs.Coupling
import TensorGraph.Proofs.Composition
import TensorGraph.Proofs.Validation

namespace TensorGraph

/-! ## Model -/

def Declaration.tensor? : Declaration → Option Tensor
  | .tensor t => some t
  | .operation _ => none

def Declaration.operation? : Declaration → Option Operation
  | .tensor _ => none
  | .operation op => some op

/-- the tensors among declarations, in order -/
def Declaration.tensors (declarations : List Declaration) : List Tensor := declarations.filterMap tensor?

/-- the operations among declarations, in order -/
def Declaration.operations (declarations : List Declaration) : List Operation := declarations.filterMap operation?

/-- every tensor under its own name, and the operations in order -/
def Graph.declared (name : String) (declarations : List Declaration) : Graph :=
  ⟨name, Declaration.operations declarations, .ofList ((Declaration.tensors declarations).map fun t => (t.name, t))⟩

/-- the first tensor that is declared under a name that was declared before: the names of those before it are distinct,
and its own is one of them -/
def Declaration.FirstRepeated (declarations : List Declaration) (t : Tensor) : Prop :=
  ∃ first rest, Declaration.tensors declarations = first ++ t :: rest ∧ (first.map Tensor.name).Nodup ∧
    t.name ∈ first.map Tensor.name

/-! ## The first repetition -/

/-- a list with repetitions has a first one -/
theorem exists_first_repeated {α β : Type} (f : α → β) {l : List α} (h : ¬ (l.map f).Nodup) :
    ∃ first a rest, l = first ++ a :: rest ∧ (first.map f).Nodup ∧ f a ∈ first.map f := by
  induction l using List.reverseRecOn with
  | nil => exact absurd List.nodup_nil h
  | append_singleton l a ih =>
    by_cases hl : (l.map f).Nodup
    · refine ⟨l, a, [], rfl, hl, ?_⟩
      by_contra hnot
      refine h ?_
      rw [List.map_append, List.nodup_append']
      exact ⟨hl, List.nodup_singleton _, fun b hb hb' => hnot (List.mem_singleton.1 hb' ▸ hb)⟩
    · obtain ⟨first, b, rest, rfl, hfirst, hb⟩ := ih hl
      exact ⟨first, b, rest ++ [a], by simp, hfirst, hb⟩

/-! ## Drafts -/

namespace Draft

/-- a draft with more operations -/
def withOperations (d : Draft) (ops : List Operation) : Draft :=
  { d with graph := { d.graph with operations := d.graph.operations ++ ops } }

/-- a draft after tensors, one after another -/
def declareAll (d : Draft) (ts : List Tensor) : Draft := ts.foldl (fun d t => d.step (.tensor t)) d

theorem step_withOperations (d : Draft) (ops : List Operation) (t : Tensor) :
    (d.withOperations ops).step (.tensor t) = (d.step (.tensor t)).withOperations ops := by
  unfold step withOperations Graph.declare
  cases hfault : d.fault with
  | some e => simp [hfault]
  | none => by_cases hold : d.graph.tensors.contains t.name <;> simp [hold]

theorem declareAll_withOperations (d : Draft) (ops : List Operation) (ts : List Tensor) :
    (d.withOperations ops).declareAll ts = (d.declareAll ts).withOperations ops := by
  induction ts generalizing d with
  | nil => rfl
  | cons t rest ih =>
    rw [declareAll, List.foldl_cons, step_withOperations]
    exact ih _

theorem declareAll_append (d : Draft) (ts us : List Tensor) :
    d.declareAll (ts ++ us) = (d.declareAll ts).declareAll us := List.foldl_append

/-- tensors and operations do not get in each other's way -/
theorem foldl_step (d : Draft) (declarations : List Declaration) :
    declarations.foldl step d =
      (d.declareAll (Declaration.tensors declarations)).withOperations (Declaration.operations declarations) := by
  induction declarations generalizing d with
  | nil => simp [Declaration.tensors, Declaration.operations, declareAll, withOperations]
  | cons declaration rest ih =>
    rw [List.foldl_cons, ih]
    cases declaration with
    | tensor t => rfl
    | operation op =>
      have hop : d.step (.operation op) = d.withOperations [op] := rfl
      have htensors : Declaration.tensors (.operation op :: rest) = Declaration.tensors rest := rfl
      have hoperations : Declaration.operations (.operation op :: rest) = op :: Declaration.operations rest := rfl
      rw [hop, declareAll_withOperations, htensors, hoperations]
      simp [withOperations]

/-- after a fault no tensor is taken -/
theorem declareAll_of_fault {d : Draft} {e : GraphError} (h : d.fault = some e) (ts : List Tensor) :
    d.declareAll ts = d := by
  induction ts with
  | nil => rfl
  | cons t rest ih =>
    have hstep : d.step (.tensor t) = d := by
      unfold step
      dsimp only
      rw [h]
    rw [declareAll, List.foldl_cons, hstep]
    exact ih

/-- tensors with distinct names are all taken -/
theorem declareAll_of_distinct {name : String} {ts : List Tensor} (h : (ts.map Tensor.name).Nodup) :
    (start name).declareAll ts = ⟨⟨name, [], .ofList (ts.map fun t => (t.name, t))⟩, none⟩ := by
  induction ts using List.reverseRecOn with
  | nil => rfl
  | append_singleton ts t ih =>
    rw [List.map_append, List.nodup_append'] at h
    obtain ⟨hts, -, hdisjoint⟩ := h
    have hkeys : ((ts.map fun t => (t.name, t)).map Prod.fst).Nodup := by rwa [List.map_map]
    have hnew : (NameMap.ofList (ts.map fun t => (t.name, t))).contains t.name = false := by
      rw [NameMap.contains, Option.isSome_eq_false_iff, Option.isNone_iff_eq_none, Option.eq_none_iff_forall_ne_some]
      intro u hu
      obtain ⟨v, hv, heq⟩ := List.mem_map.1 ((NameMap.find?_ofList_eq_some_iff hkeys).1 hu)
      exact hdisjoint (List.mem_map_of_mem hv) (List.mem_singleton.2 (Prod.ext_iff.1 heq).1)
    rw [declareAll_append, ih hts, List.map_append, List.map_singleton, NameMap.ofList_concat]
    simp [declareAll, step, Graph.declare, hnew]

/-- the first name that is taken already is the fault, whatever comes after it -/
theorem fault_of_repeated {name : String} {first rest : List Tensor} {t : Tensor} (h : (first.map Tensor.name).Nodup)
    (ht : t.name ∈ first.map Tensor.name) :
    ((start name).declareAll (first ++ t :: rest)).fault = some (.duplicateTensor t.name) := by
  obtain ⟨u, hu, hname⟩ := List.mem_map.1 ht
  have hkeys : ((first.map fun t => (t.name, t)).map Prod.fst).Nodup := by rwa [List.map_map]
  have hold : (NameMap.ofList (first.map fun t => (t.name, t))).contains t.name = true := by
    rw [NameMap.contains, (NameMap.find?_ofList_eq_some_iff hkeys).2 (List.mem_map.2 ⟨u, hu, Prod.ext hname rfl⟩)]
    rfl
  rw [declareAll_append, declareAll_of_distinct h, ← List.singleton_append, declareAll_append]
  have hfault : (declareAll ⟨⟨name, [], .ofList (first.map fun t => (t.name, t))⟩, none⟩ [t]).fault =
      some (.duplicateTensor t.name) := by
    simp [declareAll, step, Graph.declare, hold]
  rw [declareAll_of_fault hfault, hfault]

end Draft

namespace Graph

variable {name : String} {declarations : List Declaration}

/-! ## Building -/

/-- with distinct names, all that is left to do is validation -/
theorem build_of_distinct (h : ((Declaration.tensors declarations).map Tensor.name).Nodup) :
    build name declarations = (declared name declarations).validate.map fun _ => declared name declarations := by
  have hdraft : declarations.foldl Draft.step (.start name) = ⟨declared name declarations, none⟩ := by
    rw [Draft.foldl_step, Draft.declareAll_of_distinct h]
    rfl
  rw [build, hdraft, Draft.finish]
  dsimp only
  cases (declared name declarations).validate <;> rfl

/-- a repeated name is the fault, whatever else is wrong -/
theorem build_of_repeated {t : Tensor} (h : Declaration.FirstRepeated declarations t) :
    build name declarations = .error (.duplicateTensor t.name) := by
  obtain ⟨first, rest, hsplit, hfirst, ht⟩ := h
  have hfault : (declarations.foldl Draft.step (.start name)).fault = some (.duplicateTensor t.name) := by
    rw [Draft.foldl_step, hsplit]
    exact Draft.fault_of_repeated hfirst ht
  rw [build, Draft.finish, hfault]

theorem exists_firstRepeated (h : ¬ ((Declaration.tensors declarations).map Tensor.name).Nodup) :
    ∃ t, Declaration.FirstRepeated declarations t := by
  obtain ⟨first, t, rest, hsplit⟩ := exists_first_repeated Tensor.name h
  exact ⟨t, first, rest, hsplit⟩

theorem build_eq_ok_iff {g : Graph} : build name declarations = .ok g ↔
    ((Declaration.tensors declarations).map Tensor.name).Nodup ∧
      (declared name declarations).validate = .ok () ∧ g = declared name declarations := by
  by_cases h : ((Declaration.tensors declarations).map Tensor.name).Nodup
  · rw [build_of_distinct h]
    cases (declared name declarations).validate <;> simp [Except.map, h, eq_comm]
  · obtain ⟨t, ht⟩ := exists_firstRepeated h
    rw [build_of_repeated ht]
    simp [h]

/-- what is kept under a name was declared under it -/
theorem tensor?_declared (h : ((Declaration.tensors declarations).map Tensor.name).Nodup) {key : String} {t : Tensor} :
    (declared name declarations).tensor? key = some t ↔ t ∈ Declaration.tensors declarations ∧ t.name = key := by
  have hkeys : (((Declaration.tensors declarations).map fun t => (t.name, t)).map Prod.fst).Nodup := by
    rwa [List.map_map]
  rw [tensor?, declared, NameMap.find?_ofList_eq_some_iff hkeys, List.mem_map]
  constructor
  · rintro ⟨u, hu, heq⟩
    cases heq
    exact ⟨hu, rfl⟩
  · rintro ⟨ht, rfl⟩
    exact ⟨t, ht, rfl⟩

/-- declarations of the same tensors in another order, and of the same operations in the same order, make one graph -/
theorem declared_perm {declarations' : List Declaration}
    (h : ((Declaration.tensors declarations).map Tensor.name).Nodup)
    (htensors : (Declaration.tensors declarations').Perm (Declaration.tensors declarations))
    (hoperations : Declaration.operations declarations' = Declaration.operations declarations) :
    declared name declarations' = declared name declarations := by
  have hkeys : (((Declaration.tensors declarations).map fun t => (t.name, t)).map Prod.fst).Nodup := by
    rwa [List.map_map]
  rw [declared, declared, hoperations, NameMap.ofList_perm (htensors.symm.map _) hkeys]

/-! ## Clocks -/

/-- what a run does, and how it ends, does not depend on the clock -/
theorem runGraph_clock {σ τ : Type} [Engine σ τ] [Handle τ] (options : RunOptions) (clock clock' : Clock) (g : Graph)
    (s : Session σ τ) :
    reached (Session.runGraph options clock' g s) = reached (Session.runGraph options clock g s) ∧
      fault? (Session.runGraph options clock' g s) = fault? (Session.runGraph options clock g s) := by
  rw [Session.runGraph_eq, Session.runGraph_eq]
  cases Session.prepareAll options g s with
  | error e s₁ => exact ⟨rfl, rfl⟩
  | ok u s₁ =>
    dsimp only
    cases Session.runFrom 0 g.operations s₁ <;> exact ⟨rfl, rfl⟩

/-! ## Main result -/

open Session in
/-- **Declarations and their graph.** Building succeeds exactly if the declared names are distinct and the graph of the
declarations is valid. If a name repeats, the first tensor with a name that occurred before is reported, whatever else
is wrong. A graph that was built has exactly the declared tensors, each under its own name, and exactly the operations,
in order.

If the tensors are declared in another order, between other operations, the same graph is built. So it has the same
figures, and its default run on a fresh recorder, whichever primitive always fails and however long anything takes,
binds the same handles, leaves the same log and the same buffers, and ends in the same way. -/
theorem build_by_declarations (name : String) (declarations : List Declaration) :
    let names := (Declaration.tensors declarations).map Tensor.name
    ((∃ g, build name declarations = .ok g) ↔ names.Nodup ∧ (declared name declarations).validate = .ok ()) ∧
    (¬ names.Nodup → ∃ t, Declaration.FirstRepeated declarations t ∧
      build name declarations = .error (.duplicateTensor t.name)) ∧
    ∀ g, build name declarations = .ok g →
      (g.name = name ∧ g.operations = Declaration.operations declarations ∧
        ∀ key t, g.tensor? key = some t ↔ t ∈ Declaration.tensors declarations ∧ t.name = key) ∧
      ∀ declarations', (Declaration.tensors declarations').Perm (Declaration.tensors declarations) →
        Declaration.operations declarations' = Declaration.operations declarations →
        ∃ g', build name declarations' = .ok g' ∧ g' = g ∧ g'.summary = g.summary ∧
          ∀ (failOn : Option String) (clock clock' : Clock),
            let run := runGraph default clock g (fresh failOn)
            let run' := runGraph default clock' g' (fresh failOn)
            reached run' = reached run ∧ fault? run' = fault? run := by
  intro names
  refine ⟨?_, fun h => ?_, fun g hg => ?_⟩
  · simp [build_eq_ok_iff, names]
  · obtain ⟨t, ht⟩ := exists_firstRepeated h
    exact ⟨t, ht, build_of_repeated ht⟩
  · obtain ⟨hnames, hvalid, rfl⟩ := build_eq_ok_iff.1 hg
    refine ⟨⟨rfl, rfl, fun key t => tensor?_declared hnames⟩, fun declarations' htensors hoperations => ?_⟩
    have hnames' : ((Declaration.tensors declarations').map Tensor.name).Nodup :=
      (htensors.map _).nodup_iff.2 hnames
    have hsame : declared name declarations' = declared name declarations :=
      declared_perm hnames htensors hoperations
    refine ⟨_, build_eq_ok_iff.2 ⟨hnames', ?_, rfl⟩, hsame, by rw [hsame], fun failOn clock clock' => ?_⟩
    · rwa [hsame]
    · rw [hsame]
      exact runGraph_clock _ _ _ _ _

end Graph

end TensorGraph
