/-
What validation promises about a run.

Model: validation looks at names at any depth of any operand, preparing binds tensors by name, and operators look up
their own operands. A fault that `IsOwn` is not about a name, be it one without a tensor or one that has a tensor
already. Only a tensor of the open kind, which cannot be stored, may be `Unpreparable` in a sound graph.

Main results:
- `fault_materialize`: the first unpreparable tensor ends preparing, and without failures nothing else does;
- `faults_of_built_graph`: a graph that was built never misses a tensor, and its engine only fails to copy.
-/
import TensorGraph.Proofs.Composition
import TensorGraph.Proofs.Lifetime
import TensorGraph.Proofs.References

namespace TensorGraph

/-! ## Model -/

/-- a fault that is neither about names nor about a part of a run or a graph -/
def RunError.IsOwn : RunError → Prop
  | .duplicateTensor _ | .unboundTensor _ | .operation .. | .graph _ => False
  | _ => True

/-- whether a tensor is of the open kind and not bound -/
def Session.blocks {σ τ : Type} (s : Session σ τ) (e : String × Tensor) : Bool :=
  e.2.kind = .generic && !s.isBound e.1

/-- a tensor of a graph that cannot be prepared -/
def Session.Unpreparable {σ τ : Type} (s : Session σ τ) (g : Graph) (name : String) : Prop :=
  ∃ t, g.tensor? name = some t ∧ t.kind = .generic ∧ s.isBound name = false

namespace RunError.IsOwn

variable {e : RunError}

theorem of_complaint (h : e.IsComplaint) : e.IsOwn := by
  cases e <;> trivial

theorem root_eq (h : e.IsOwn) : e.root = e := by
  cases e <;> first | rfl | exact h.elim

theorem ne_unbound (h : e.IsOwn) (name : String) : e.root ≠ .unboundTensor name := by
  rw [h.root_eq]
  rintro rfl
  exact h

theorem ne_duplicate (h : e.IsOwn) (name : String) : e.root ≠ .duplicateTensor name := by
  rw [h.root_eq]
  rintro rfl
  exact h

end RunError.IsOwn

theorem Kernel.primitive_ne_allocate {τ : Type} (k : Kernel τ) : k.primitive ≠ .allocate := by
  cases k with
  | conv strategy => cases strategy <;> nofun
  | _ => nofun

namespace Session

/-! ## Operations whose names are bound -/

theorem fault_releaseAll {σ τ : Type} [Engine σ τ] {ts : List τ} {s : Session σ τ} {e : RunError}
    (h : fault? (releaseAll ts s) = some e) : ∃ why, e = .engine .release why := by
  induction ts generalizing s with
  | nil => cases h
  | cons t rest ih =>
    rw [releaseAll, fault?_both, Option.or_eq_some_iff] at h
    rcases h with h | ⟨-, h⟩
    · rw [fault?_invoke, Option.map_eq_some_iff] at h
      obtain ⟨why, -, rfl⟩ := h
      exact ⟨why, rfl⟩
    · exact ih h

/-- a request that was decided on fails in the engine, and not over a new buffer -/
theorem fault_issue {env : String → Option BufferRef} {o : Operator} {op : Operation}
    {i : Instruction (Operand BufferRef)} (hi : (o.decision env op).outcome = .ok i)
    {f : Operand BufferRef → BufferRef} {s : Session Recorder BufferRef} {e : RunError}
    (h : fault? (issue (i.map f) s) = some e) : ∃ p why, p ≠ .allocate ∧ e = .engine p why := by
  have hinvoke (p : Primitive) (hp : p ≠ .allocate) {act : EStateM String Recorder Unit}
      (h : fault? (invoke p act s) = some e) : ∃ p why, p ≠ .allocate ∧ e = .engine p why := by
    rw [fault?_invoke, Option.map_eq_some_iff] at h
    obtain ⟨why, -, rfl⟩ := h
    exact ⟨p, why, hp, rfl⟩
  have hnamed := isNamed_of_decision hi
  cases i with
  | idle => cases h
  | fill target payload => exact hinvoke .fill nofun h
  | copy source target => exact hinvoke .copy nofun h
  | compute name k => exact hinvoke name (fun hname => k.primitive_ne_allocate (hnamed.symm.trans hname)) h

section

variable {s : Session Recorder BufferRef} {op : Operation} {e : RunError}

theorem own_dispatch {o : Operator} (hbound : ∀ name ∈ op.identifiers, s.isBound name = true)
    (he : fault? (dispatch o op s) = some e) : e.IsOwn := by
  rcases fault_of_dispatch he with hdecision | ⟨p, -, rfl⟩ | ⟨i, hi, hissued⟩
  · exact .of_complaint (complaint_of_decision hbound hdecision)
  · trivial
  · obtain ⟨p, why, -, rfl⟩ := fault_issue hi hissued
    trivial

/-- an operation is refused for its kind, or fails on its way or in releasing its scratch tensors -/
theorem fault_of_perform {o : Operator} (he : fault? (perform o op s) = some e) :
    (op.dtype = .generic ∧ e = .unsupportedKind op.name .generic) ∨ fault? (dispatch o op s) = some e ∨
      ∃ why, e = .engine .release why := by
  unfold perform at he
  split at he
  · rw [fault?_both, Option.or_eq_some_iff] at he
    exact Or.inr (he.imp_right fun h => fault_releaseAll h.2)
  · rename_i hopen
    have hgeneric := ElementKind.isConcrete_eq_false_iff.1 (Bool.eq_false_iff.2 hopen)
    rw [hgeneric] at he
    cases he
    exact Or.inl ⟨hgeneric, rfl⟩

theorem own_perform {o : Operator} (hbound : ∀ name ∈ op.identifiers, s.isBound name = true)
    (he : fault? (perform o op s) = some e) : e.IsOwn := by
  rcases fault_of_perform he with ⟨-, rfl⟩ | he | ⟨why, rfl⟩
  · trivial
  · exact own_dispatch hbound he
  · trivial

/-- an operation all of whose names are bound does not fail over a name -/
theorem own_performNamed (hbound : ∀ name ∈ op.identifiers, s.isBound name = true)
    (he : fault? (performNamed op s) = some e) : e.IsOwn := by
  unfold performNamed at he
  cases hnamed : Operator.named? op.name with
  | some r =>
    rw [hnamed] at he
    exact own_perform hbound he
  | none =>
    rw [hnamed] at he
    cases he
    trivial

end

/-! ## Preparing -/

section

variable {failOn : Option String} {s : Session Recorder BufferRef}

theorem isTaken_eq_isBound {σ τ : Type} {s : Session σ τ} (h : s.reserved = []) (name : String) :
    s.isTaken name = s.isBound name := by
  rw [isTaken, h]
  exact Bool.or_false _

/-- a tensor under a new name cannot be created, meets the primitive that always fails, or is bound with its kind and
shape -/
theorem creation_cases (hrest : Rests failOn s) {t : Tensor} (hnew : s.isTaken t.name = false) :
    (t.kind = .generic ∧ bindTensor t s = .error (.unsupportedKind t.name .generic) s) ∨
    (t.kind ≠ .generic ∧ failOn ≠ none ∧ ∃ why s', bindTensor t s = .error (.engine .allocate why) s') ∨
    (t.kind ≠ .generic ∧ ∃ (u : BufferRef) (s' : _), bindTensor t s = .ok () s' ∧
      s'.bindings = s.bindings.insert t.name u ∧ u.kind = t.kind ∧ u.shape = t.shape) := by
  rcases bindTensor_cases t s with ⟨hold, -⟩ | ⟨-, hopen, h⟩ | ⟨-, hkind, ⟨why, r, -, h⟩ | ⟨u, r, hal, h⟩⟩
  · rw [hnew] at hold
    cases hold
  · have hgeneric := ElementKind.isConcrete_eq_false_iff.1 hopen
    rw [hgeneric] at h
    exact Or.inl ⟨hgeneric, h⟩
  · have hacc := accounted_bindTensor hrest (congrArg fault? h)
    exact Or.inr (Or.inl ⟨ElementKind.isConcrete_iff.1 hkind, fun hno => (hacc _ _ rfl).2 hno, why, _, h⟩)
  · exact Or.inr (Or.inr ⟨ElementKind.isConcrete_iff.1 hkind, u, _, h, rfl, Recorder.honestHandles _ _ _ _ _ hal⟩)

/-- storing a payload in a bound tensor that it fits only fails if some primitive always fails -/
theorem store_cases (hrest : Rests failOn s) {t : Tensor} {u : BufferRef} (hu : s.bindings.find? t.name = some u)
    {p : Payload} (hp : t.data = some p) (hkind : p.kind = u.kind) (hlength : p.length = volume u.shape) :
    (∃ s', store t s = .ok () s') ∨ failOn ≠ none ∧ ∃ why s', store t s = .error (.engine .fill why) s' := by
  cases hstore : store t s with
  | ok v s' => exact Or.inl ⟨s', rfl⟩
  | error e s' =>
    have hacc := accounted_store hrest (congrArg fault? hstore)
    have hfault := congrArg fault? hstore
    rw [store_apply, hp, hu] at hfault
    dsimp only at hfault
    rw [fault?_invoke, fault?_error, Option.map_eq_some_iff] at hfault
    obtain ⟨why, -, rfl⟩ := hfault
    refine Or.inr ⟨fun hno => ?_, why, s', rfl⟩
    obtain ⟨-, p', extent, hp', hextent, hne⟩ := (hacc .fill why rfl).2 hno
    cases hp.symm.trans hp'
    cases (extent?_of_bound hu).symm.trans hextent
    exact hne (Prod.ext hkind hlength)

/-- a sound tensor is bound already, cannot be prepared, is prepared, or meets the primitive that always fails -/
theorem prepare_cases (hrest : Rests failOn s) (hres : s.reserved = []) {t : Tensor} (ht : t.Sound) :
    (s.isBound t.name = true ∧ prepare t.name t s = .ok () s) ∨
    (s.isBound t.name = false ∧ t.kind = .generic ∧
      prepare t.name t s = .error (.unsupportedKind t.name .generic) s) ∨
    (s.isBound t.name = false ∧ t.kind ≠ .generic ∧
      ((∃ s', prepare t.name t s = .ok () s' ∧ ∀ name, name ≠ t.name → s'.isBound name = s.isBound name) ∨
      (failOn ≠ none ∧ ∃ p why s', prepare t.name t s = .error (.engine p why) s'))) := by
  cases hbound : s.isBound t.name with
  | true => exact Or.inl ⟨rfl, prepare_of_bound hbound t⟩
  | false =>
    rw [prepare_of_missing hbound]
    rcases creation_cases hrest ((isTaken_eq_isBound hres t.name).trans hbound) with
      ⟨hgeneric, h⟩ | ⟨hnot, hne, why, s₁, h⟩ | ⟨hnot, u, s₁, h, hinsert, hukind, hushape⟩
    · rw [h]
      exact Or.inr (Or.inl ⟨rfl, hgeneric, rfl⟩)
    · rw [h]
      exact Or.inr (Or.inr ⟨rfl, hnot, Or.inr ⟨hne, _, why, s₁, rfl⟩⟩)
    · have hothers : ∀ name, name ≠ t.name → s₁.isBound name = s.isBound name := fun name hname => by
        rw [isBound, isBound, hinsert, NameMap.contains, NameMap.contains, NameMap.find?_insert, if_neg hname]
      have hrest₁ := bindTensor_keeps (Recorder.custody failOn) t s hrest
      rw [h, reached_ok] at hrest₁
      rw [h]
      refine Or.inr (Or.inr ⟨rfl, hnot, ?_⟩)
      dsimp only
      cases hdata : t.data with
      | none => exact Or.inl ⟨s₁, rfl, hothers⟩
      | some p =>
        have hfind : s₁.bindings.find? t.name = some u := by
          rw [hinsert, NameMap.find?_insert, if_pos rfl]
        obtain ⟨hkind, hlength⟩ := ht.payload p hdata
        rcases store_cases hrest₁ hfind hdata (hkind.trans hukind.symm) (hlength.trans (congrArg volume hushape.symm))
          with ⟨s', hs'⟩ | ⟨hne, why, s', hs'⟩
        · have hkept := (store_names t s₁).1
          rw [hs', reached_ok] at hkept
          refine Or.inl ⟨s', hs', fun name hname => ?_⟩
          rw [← hothers name hname, isBound, isBound, hkept]
        · exact Or.inr ⟨hne, _, why, s', hs'⟩

theorem prepare_reserved (key : String) (t : Tensor) (s : Session Recorder BufferRef) :
    (reached (prepare key t s)).reserved = s.reserved :=
  keeps_prepare (P := fun s' => s'.reserved = s.reserved) (fun t s' hs' => (bindTensor_reserved t s').trans hs')
    (fun t s' hs' => (store_names t s').2.trans hs') key t s rfl

/-- tensors that are sound and kept under their own names -/
def Preparable (entries : List (String × Tensor)) : Prop := ∀ e ∈ entries, e.2.name = e.1 ∧ e.2.Sound

/-- sound tensors fail to be prepared for reasons of their own -/
theorem own_materialize (hrest : Rests failOn s) (hres : s.reserved = []) {entries : List (String × Tensor)}
    (hsound : Preparable entries) {e : RunError} (he : fault? (materialize entries s) = some e) : e.IsOwn := by
  have hinv := invariant_atRest (Recorder.custody failOn)
  induction entries generalizing s with
  | nil => cases he
  | cons entry rest ih =>
    obtain ⟨key, t⟩ := entry
    obtain ⟨rfl, ht⟩ : t.name = key ∧ t.Sound := hsound (key, t) List.mem_cons_self
    have hrest' := keeps_prepare hinv.bindTensor hinv.store t.name t s hrest
    have hres' := (prepare_reserved t.name t s).trans hres
    have hgoOn := fun s₁ h₁ h₂ => ih (s := s₁) h₁ h₂ fun e' he' => hsound e' (List.mem_cons_of_mem _ he')
    rw [materialize, bind_apply] at he
    rcases prepare_cases hrest hres ht with ⟨-, h⟩ | ⟨-, -, h⟩ | ⟨-, -, ⟨s₁, h, -⟩ | ⟨-, p, why, s₁, h⟩⟩ <;>
      rw [h] at he hrest' hres'
    · exact hgoOn s hrest' hres' he
    · cases he
      trivial
    · exact hgoOn s₁ hrest' hres' he
    · cases he
      trivial

/-- without failures, preparing sound tensors goes well up to the first that blocks it -/
theorem fault_materialize (hrest : Rests none s) (hres : s.reserved = []) {entries : List (String × Tensor)}
    (hsound : Preparable entries) (hsorted : entries.Pairwise fun a b => a.1 < b.1) :
    fault? (materialize entries s) = (entries.find? s.blocks).map fun e => .unsupportedKind e.1 .generic := by
  have hinv := invariant_atRest (Recorder.custody none)
  induction entries generalizing s with
  | nil => rfl
  | cons entry rest ih =>
    obtain ⟨key, t⟩ := entry
    obtain ⟨rfl, ht⟩ : t.name = key ∧ t.Sound := hsound (key, t) List.mem_cons_self
    have hrest' := keeps_prepare hinv.bindTensor hinv.store t.name t s hrest
    have hres' := (prepare_reserved t.name t s).trans hres
    obtain ⟨hfirst, hsorted'⟩ := List.pairwise_cons.1 hsorted
    have hgoOn := fun s₁ h₁ h₂ => ih (s := s₁) h₁ h₂ (fun e' he' => hsound e' (List.mem_cons_of_mem _ he')) hsorted'
    rw [materialize, bind_apply, List.find?_cons]
    rcases prepare_cases hrest hres ht with ⟨hbound, h⟩ | ⟨hbound, hgeneric, h⟩ |
      ⟨hbound, hnot, ⟨s₁, h, hothers⟩ | ⟨hno, -⟩⟩
    · rw [h] at hrest' hres' ⊢
      rw [show s.blocks (t.name, t) = false by simp [blocks, hbound]]
      exact hgoOn s hrest' hres'
    · rw [h, show s.blocks (t.name, t) = true by simp [blocks, hbound, hgeneric]]
      rfl
    · rw [h] at hrest' hres' ⊢
      rw [show s.blocks (t.name, t) = false by simp [blocks, hnot]]
      -- only this name got bound, and it does not come again, since the entries are in order
      have hsame : ∀ e ∈ rest, s₁.blocks e = s.blocks e := fun e he => by
        have hne : e.1 ≠ t.name := fun heq => String.lt_irrefl t.name (by simpa [heq] using hfirst e he)
        rw [blocks, blocks, hothers e.1 hne]
      dsimp only
      rw [hgoOn s₁ hrest' hres', List.find?_congr hsame]
    · exact absurd rfl hno

end

/-! ## Runs -/

/-- a run that went well left every tensor of the graph bound -/
theorem bound_of_runGraph {σ τ : Type} [Engine σ τ] [Handle τ] {clock : Clock} {g : Graph} (hg : g.KeepsOwnNames)
    {s s' : Session σ τ} {figures : RunStatistics} (h : runGraph default clock g s = .ok figures s') {name : String}
    (hname : g.tensors.contains name = true) : s'.isBound name = true := by
  rw [runGraph_eq] at h
  cases hprep : prepareAll default g s with
  | error e s₁ => rw [hprep] at h; cases h
  | ok u s₁ =>
    rw [hprep] at h
    dsimp only at h
    cases hops : runFrom 0 g.operations s₁ with
    | error e s₂ => rw [hops] at h; cases h
    | ok v s₂ =>
      rw [hops] at h
      cases h
      obtain ⟨t, ht⟩ := Option.isSome_iff_exists.1 hname
      have hbound := bound_of_materialize hg hprep (name, t) (NameMap.mem_entries_iff.2 ht)
      have hnames := bindings_runFrom 0 g.operations s₁
      rw [hops, reached_ok] at hnames
      rw [isBound] at hbound ⊢
      rwa [hnames]

section

variable {failOn : Option String} {s : Session Recorder BufferRef} {g : Graph}

theorem preparable_of_sound (hg : g.KeepsOwnNames) (hsound : g.Sound) : Preparable g.tensors.entries :=
  fun e he => ⟨hg e he, hsound.tensors e.1 e.2 (NameMap.mem_entries_iff.1 he)⟩

/-- a fault of a sound graph is one of preparing its tensors, or of an operation whose names are all bound -/
theorem run_cases (hrest : Rests failOn s) (hg : g.KeepsOwnNames) (hsound : g.Sound) {clock : Clock} {e : RunError}
    (he : fault? (runGraph default clock g s) = some e) :
    fault? (materialize g.tensors.entries s) = some e ∨
      ∃ index op cause s₁, e = .operation index op.name cause ∧ fault? (performNamed op s₁) = some cause ∧
        Rests failOn s₁ ∧ ∀ name ∈ op.identifiers, s₁.isBound name = true := by
  cases hrun : runGraph default clock g s with
  | ok figures s' => rw [hrun] at he; cases he
  | error e' s' =>
    rw [hrun] at he
    cases he
    rcases runGraph_error hrun with ⟨hprep, -⟩ | ⟨index, op, cause, figures, s₁, hop, hbefore, hfails, -, rfl⟩
    · exact Or.inl (congrArg fault? hprep)
    · -- the operations before the failing one are a run of their own, so what holds after a run holds before it
      have hrest₁ := (invariant_atRest (Recorder.custody failOn)).runGraph default clock
        { g with operations := g.operations.take index } s hrest
      have hpart : ({ g with operations := g.operations.take index } : Graph).KeepsOwnNames := hg
      rw [hbefore] at hrest₁
      refine Or.inr ⟨index, op, cause, s₁, rfl, congrArg fault? hfails, hrest₁, fun name hname => ?_⟩
      exact bound_of_runGraph hpart hbefore (hsound.references op (List.mem_of_getElem? hop) name hname)

/-- a sound graph does not fail over a name -/
theorem root_of_run (hrest : Rests failOn s) (hres : s.reserved = []) (hg : g.KeepsOwnNames) (hsound : g.Sound)
    {clock : Clock} {e : RunError} (he : fault? (runGraph default clock g s) = some e) (name : String) :
    e.root ≠ .unboundTensor name ∧ e.root ≠ .duplicateTensor name := by
  have hown : ∃ e' : RunError, e'.IsOwn ∧ e.root = e'.root := by
    rcases run_cases hrest hg hsound he with hprep | ⟨index, op, cause, s₁, rfl, hfails, -, hbound⟩
    · exact ⟨e, own_materialize hrest hres (preparable_of_sound hg hsound) hprep, rfl⟩
    · exact ⟨cause, own_performNamed hbound hfails, rfl⟩
  obtain ⟨e', hown, hroot⟩ := hown
  rw [hroot]
  exact ⟨hown.ne_unbound name, hown.ne_duplicate name⟩

/-- without failures, preparing a sound graph fails at its first unpreparable tensor and at no other -/
theorem fault_materialize_iff (hrest : Rests none s) (hres : s.reserved = []) (hg : g.KeepsOwnNames) (hsound : g.Sound)
    {e : RunError} :
    fault? (materialize g.tensors.entries s) = some e ↔ ∃ name, e = .unsupportedKind name .generic ∧
      s.Unpreparable g name ∧ ∀ name', s.Unpreparable g name' → name ≤ name' := by
  have hblocks : ∀ key t, (key, t) ∈ g.tensors.entries ∧ s.blocks (key, t) = true ↔
      g.tensor? key = some t ∧ t.kind = .generic ∧ s.isBound key = false := fun key t => by
    rw [NameMap.mem_entries_iff, blocks, Bool.and_eq_true, decide_eq_true_eq, Bool.not_eq_true']
    exact Iff.rfl
  rw [fault_materialize hrest hres (preparable_of_sound hg hsound) g.tensors.sorted, Option.map_eq_some_iff]
  constructor
  · rintro ⟨⟨key, t⟩, hfind, rfl⟩
    obtain ⟨hmem, hopen, hleast⟩ := NameMap.find?_entries_eq_some_iff.1 hfind
    refine ⟨key, rfl, ⟨t, (hblocks key t).1 ⟨hmem, hopen⟩⟩, fun name' ⟨t', ht'⟩ => ?_⟩
    obtain ⟨hmem', hopen'⟩ := (hblocks name' t').2 ht'
    exact hleast (name', t') hmem' hopen'
  · rintro ⟨name, rfl, ⟨t, ht⟩, hleast⟩
    obtain ⟨hmem, hopen⟩ := (hblocks name t).2 ht
    refine ⟨(name, t), NameMap.find?_entries_eq_some_iff.2 ⟨hmem, hopen, fun e' he' hopen' => ?_⟩, rfl⟩
    exact hleast e'.1 ⟨e'.2, (hblocks e'.1 e'.2).1 ⟨he', hopen'⟩⟩

/-- without failures, the engine only fails to copy in a run of a sound graph -/
theorem primitive_of_run (hrest : Rests none s) (hres : s.reserved = []) (hg : g.KeepsOwnNames) (hsound : g.Sound)
    {clock : Clock} {e : RunError} (he : fault? (runGraph default clock g s) = some e) {p : Primitive} {why : String}
    (hroot : e.root = .engine p why) : p = .copy := by
  rcases run_cases hrest hg hsound he with hprep | ⟨index, op, cause, s₁, rfl, hfails, hrest₁, -⟩
  · obtain ⟨name, rfl, -⟩ := (fault_materialize_iff hrest hres hg hsound).1 hprep
    cases hroot
  · unfold performNamed at hfails
    cases hnamed : Operator.named? op.name with
    | none =>
      rw [hnamed] at hfails
      cases hfails
      cases hroot
    | some r =>
      rw [hnamed] at hfails
      obtain ⟨⟨why', rfl⟩, -⟩ := (accounted_perform hrest₁ nofun hfails p why hroot).2 rfl
      cases hroot
      rfl

end

/-- **Validation is enough for a run.** Take a graph that was built from declarations, and any session on a recorder that
was never cleared, whatever else its history is and whichever primitive always fails. Whatever ends a run of the graph,
it is not about a name without a tensor, nor about one that has a tensor already. If no primitive always fails,
preparing ends at the first tensor of the open kind that is not bound, and nothing else ends it; and if the engine is to
blame for the end of the run, it failed to copy. -/
theorem faults_of_built_graph (failOn : Option String) {history : List Step} (hclear : Step.clear ∉ history)
    {name : String} {declarations : List Declaration} {g : Graph} (hg : Graph.build name declarations = .ok g)
    (clock : Clock) :
    let s := (fresh failOn).after history
    (∀ e, fault? (runGraph default clock g s) = some e → ∀ name,
      e.root ≠ .unboundTensor name ∧ e.root ≠ .duplicateTensor name) ∧
    (failOn = none →
      (∀ e, fault? (materialize g.tensors.entries s) = some e ↔ ∃ name, e = .unsupportedKind name .generic ∧
        s.Unpreparable g name ∧ ∀ name', s.Unpreparable g name' → name ≤ name') ∧
      ∀ e p why, fault? (runGraph default clock g s) = some e → e.root = .engine p why → p = .copy) := by
  intro s
  have hrest : Rests failOn s := after_atRest (Recorder.custody failOn) (coupled_fresh failOn) history
  have hres : s.reserved = [] := reserved_after hclear (fresh failOn)
  have hown := Graph.keepsOwnNames_of_build hg
  have hsound := Graph.sound_of_build hg
  refine ⟨fun e he => root_of_run hrest hres hown hsound he, fun hno => ?_⟩
  subst hno
  exact ⟨fun e => fault_materialize_iff hrest hres hown hsound,
    fun e p why he => primitive_of_run hrest hres hown hsound he⟩

/-- a name that was bound before with another size: the graph is sound all the same, and fails to copy -/
theorem faults_of_built_graph_with_old_binding :
    let history : List Step := [.create ⟨"x", .float, [3], none⟩]
    let reshape :=
      ((Operation.named "reshape" .float).withInput "input" (.identifier "x")).withOutput "output" (.identifier "y")
    let x : Tensor := ⟨"x", .float, [2], none⟩
    let y : Tensor := ⟨"y", .float, [2], none⟩
    let g : Graph := ⟨"g", [reshape], .ofList [("x", x), ("y", y)]⟩
    let s := (fresh none).after history
    Step.clear ∉ history ∧ Graph.build "g" [.tensor x, .tensor y, .operation reshape] = .ok g ∧
      ∃ e p why, fault? (runGraph default .still g s) = some e ∧ e.root = .engine p why ∧ p = .copy ∧
        ∀ name, e.root ≠ .unboundTensor name ∧ e.root ≠ .duplicateTensor name := by
  intro history reshape x y g s
  have hclear : Step.clear ∉ history := by simp [history]
  have hg : Graph.build "g" [.tensor x, .tensor y, .operation reshape] = .ok g := by decide +kernel
  have hfault : fault? (runGraph default .still g s) =
      some (.operation 0 "reshape" (.engine .copy (Fault.incompatible 0 1).message)) := by decide +kernel
  obtain ⟨hnames, hnone⟩ := faults_of_built_graph none hclear hg .still
  exact ⟨hclear, hg, _, .copy, _, hfault, rfl, (hnone rfl).2 _ _ _ hfault rfl, hnames _ hfault⟩

end Session

end TensorGraph
