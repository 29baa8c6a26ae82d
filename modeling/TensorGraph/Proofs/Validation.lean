/-
What a graph that passed validation is.

Model: a graph is `Sound` if its tensors are and if every name that an operand mentions has a tensor. A graph put
together from declarations is sound, and keeps every tensor under its own name.

Main results:
- `validate_eq_ok_iff`: validation accepts the sound graphs and no others;
- `sound_of_build`, `keepsOwnNames_of_build`: what is known of a graph that was built.
-/
import TensorGraph.Graph.Builder
import TensorGraph.Proofs.Names

namespace TensorGraph

/-! ## Model -/

/-- a rank that is not too large, and a payload of the kind and the size of the tensor -/
structure Tensor.Sound (t : Tensor) : Prop where
  rank : t.rank ≤ maxRank
  payload : ∀ p, t.data = some p → p.kind = t.kind ∧ p.length = t.volume

namespace Graph

/-- sound tensors, and no reference without a tensor -/
structure Sound (g : Graph) : Prop where
  tensors : ∀ key t, g.tensor? key = some t → t.Sound
  references : ∀ op ∈ g.operations, ∀ name ∈ op.identifiers, g.tensors.contains name = true

/-- every tensor is kept under its own name -/
def KeepsOwnNames (g : Graph) : Prop := ∀ e ∈ g.tensors.entries, e.2.name = e.1

instance (g : Graph) : Decidable g.KeepsOwnNames := inferInstanceAs (Decidable (∀ e ∈ g.tensors.entries, _))

end Graph

/-! ## Validation -/

theorem Tensor.check_eq_ok_iff {t : Tensor} : t.check = .ok () ↔ t.Sound := by
  unfold check
  constructor
  · intro h
    split at h
    · cases h
    · rename_i hrank
      refine ⟨Nat.le_of_not_lt hrank, fun p hp => ?_⟩
      rw [hp] at h
      dsimp only at h
      split at h
      · cases h
      · rename_i hkind
        split at h
        · cases h
        · rename_i hlength
          exact ⟨not_not.1 hkind, not_not.1 hlength⟩
  · intro h
    rw [if_neg (Nat.not_lt.2 h.rank)]
    cases hdata : t.data with
    | none => rfl
    | some p =>
      obtain ⟨hkind, hlength⟩ := h.payload p hdata
      simp [hkind, hlength]

namespace Graph

theorem checkTensors_eq_ok_iff {ts : List Tensor} : checkTensors ts = .ok () ↔ ∀ t ∈ ts, t.Sound := by
  induction ts with
  | nil => simp [checkTensors]
  | cons t rest ih =>
    rw [checkTensors, List.forall_mem_cons, ← ih, ← Tensor.check_eq_ok_iff]
    cases t.check <;> simp

theorem checkOperations_eq_ok_iff {tensors : NameMap Tensor} {index : Nat} {ops : List Operation} :
    checkOperations tensors index ops = .ok () ↔
      ∀ op ∈ ops, ∀ name ∈ op.identifiers, tensors.contains name = true := by
  induction ops generalizing index with
  | nil => simp [checkOperations]
  | cons op rest ih =>
    rw [checkOperations, List.forall_mem_cons, ← @ih (index + 1)]
    cases hfind : op.identifiers.find? fun name => !tensors.contains name with
    | none =>
      have hall : ∀ name ∈ op.identifiers, tensors.contains name = true := by simpa using hfind
      exact ⟨fun h => ⟨hall, h⟩, And.right⟩
    | some name =>
      have hmissing := List.find?_some hfind
      have hmem := List.mem_of_find?_eq_some hfind
      refine ⟨fun h => (nomatch h), fun h => ?_⟩
      rw [h.1 name hmem] at hmissing
      cases hmissing

/-- validation accepts the sound graphs and no others -/
theorem validate_eq_ok_iff {g : Graph} : g.validate = .ok () ↔ g.Sound := by
  have htensors : (∀ t ∈ g.tensors.values, t.Sound) ↔ ∀ key t, g.tensor? key = some t → t.Sound := by
    constructor
    · exact fun h key t ht => h t (NameMap.mem_values_of_find? ht)
    · intro h t ht
      obtain ⟨⟨key, t⟩, he, rfl⟩ := List.mem_map.1 ht
      exact h key t (NameMap.mem_entries_iff.1 he)
  have hboth : g.validate = .ok () ↔
      checkTensors g.tensors.values = .ok () ∧ checkOperations g.tensors 0 g.operations = .ok () := by
    unfold validate
    cases checkTensors g.tensors.values <;> simp
  rw [hboth, checkTensors_eq_ok_iff, checkOperations_eq_ok_iff, htensors]
  exact ⟨fun h => ⟨h.1, h.2⟩, fun h => ⟨h.tensors, h.references⟩⟩

/-! ## Graphs that were built -/

/-- a tensor put under its own name -/
theorem keepsOwnNames_insert {g g' : Graph} (h : g.KeepsOwnNames) {t : Tensor} {name : String} (ht : t.name = name)
    (hg' : g'.tensors = g.tensors.insert name t) : g'.KeepsOwnNames := by
  intro e he
  rw [hg'] at he
  rcases NameMap.mem_insertEntry he with rfl | he
  · exact ht
  · exact h e he

theorem keepsOwnNames_step {d : Draft} (h : d.graph.KeepsOwnNames) (declaration : Declaration) :
    (d.step declaration).graph.KeepsOwnNames := by
  cases declaration with
  | operation op => exact h
  | tensor t =>
    unfold Draft.step declare
    dsimp only
    cases d.fault with
    | some e => exact h
    | none =>
      by_cases hold : d.graph.tensors.contains t.name = true
      · rw [if_pos hold]
        exact h
      · rw [if_neg hold]
        exact keepsOwnNames_insert h rfl rfl

theorem keepsOwnNames_declare (declarations : List Declaration) {d : Draft} (h : d.graph.KeepsOwnNames) :
    (declarations.foldl Draft.step d).graph.KeepsOwnNames := by
  induction declarations generalizing d with
  | nil => exact h
  | cons declaration rest ih => exact ih (keepsOwnNames_step h declaration)

/-- a graph that was built is the draft it was put together as, and passed validation -/
theorem build_ok {name : String} {declarations : List Declaration} {g : Graph}
    (h : build name declarations = .ok g) :
    (declarations.foldl Draft.step (.start name)).graph = g ∧ g.validate = .ok () := by
  unfold build Draft.finish at h
  generalize declarations.foldl Draft.step (.start name) = d at h ⊢
  split at h
  · cases h
  · split at h
    · rename_i hvalid
      cases h
      exact ⟨rfl, hvalid⟩
    · cases h

theorem sound_of_build {name : String} {declarations : List Declaration} {g : Graph}
    (h : build name declarations = .ok g) : g.Sound :=
  validate_eq_ok_iff.1 (build_ok h).2

theorem keepsOwnNames_of_build {name : String} {declarations : List Declaration} {g : Graph}
    (h : build name declarations = .ok g) : g.KeepsOwnNames := by
  obtain ⟨rfl, -⟩ := build_ok h
  exact keepsOwnNames_declare declarations fun e he => nomatch he

end Graph

end TensorGraph
