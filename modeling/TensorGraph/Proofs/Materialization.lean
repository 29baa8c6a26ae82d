/-
Preparing the tensors of a graph.

Model: tensors are looked for under the names they are kept under, and bound under their own names. The two agree for a
graph that keeps its own names.

Main results:
- `bound_of_materialize`: preparing that went well leaves every name of the graph bound;
- `materialize_of_bound`: names that are bound need no preparing.
-/
import TensorGraph.Proofs.Creation
import TensorGraph.Proofs.Validation

namespace TensorGraph.Session

variable {σ τ : Type} [Engine σ τ]

/-! ## Names that are bound -/

theorem prepare_of_bound {key : String} {s : Session σ τ} (h : s.isBound key = true) (t : Tensor) :
    prepare key t s = .ok () s := by
  rw [prepare, if_pos h]

theorem prepare_of_missing {key : String} {t : Tensor} {s : Session σ τ} (h : s.isBound key = false) :
    prepare key t s = match bindTensor t s with
      | .error e s₁ => .error e s₁
      | .ok () s₁ => if t.data.isSome then store t s₁ else .ok () s₁ := by
  rw [prepare, h, bind_apply]
  cases bindTensor t s with
  | error e s₁ => rfl
  | ok u s₁ => cases t.data <;> rfl

/-- names that are bound need no preparing -/
theorem materialize_of_bound {entries : List (String × Tensor)} {s : Session σ τ}
    (h : ∀ e ∈ entries, s.isBound e.1 = true) : materialize entries s = .ok () s := by
  induction entries with
  | nil => rfl
  | cons e rest ih =>
    have hfirst := prepare_of_bound (h e List.mem_cons_self) e.2
    rw [materialize, bind_of_ok hfirst]
    exact ih fun e' he' => h e' (List.mem_cons_of_mem e he')

/-! ## Names that get bound -/

/-- preparing takes no binding away -/
theorem keeps_bound_bindTensor (name : String) (t : Tensor) :
    Keeps (fun s : Session σ τ => s.isBound name = true) (bindTensor t) := by
  intro s hs
  rcases bindTensor_cases t s with ⟨-, h⟩ | ⟨-, -, h⟩ | ⟨-, -, ⟨why, e, -, h⟩ | ⟨u, e, -, h⟩⟩ <;> rw [h]
  · exact hs
  · exact hs
  · exact hs
  · simp only [reached_ok, isBound, NameMap.contains, NameMap.find?_insert] at hs ⊢
    split
    · rfl
    · exact hs

theorem keeps_bound_store (name : String) (t : Tensor) :
    Keeps (fun s : Session σ τ => s.isBound name = true) (store t) := by
  intro s hs
  rw [isBound] at hs ⊢
  rwa [(store_names t s).1]

theorem bound_of_bindTensor {t : Tensor} {s s' : Session σ τ} {u : Unit} (h : bindTensor t s = .ok u s') :
    s'.isBound t.name = true := by
  rcases bindTensor_cases t s with ⟨-, hb⟩ | ⟨-, -, hb⟩ | ⟨-, -, ⟨why, e, -, hb⟩ | ⟨v, e, -, hb⟩⟩ <;> rw [hb] at h
  · cases h
  · cases h
  · cases h
  · cases h
    simp [isBound, NameMap.contains]

theorem bound_of_prepare {t : Tensor} {s s' : Session σ τ} {u : Unit} (h : prepare t.name t s = .ok u s') :
    s'.isBound t.name = true := by
  cases hold : s.isBound t.name with
  | true =>
    cases (prepare_of_bound hold t).symm.trans h
    exact hold
  | false =>
    rw [prepare_of_missing hold] at h
    cases hb : bindTensor t s with
    | error e s₁ => rw [hb] at h; cases h
    | ok v s₁ =>
      have hbound := bound_of_bindTensor hb
      rw [hb] at h
      dsimp only at h
      split at h
      · have hkept := keeps_bound_store t.name t s₁ hbound
        rwa [h] at hkept
      · cases h
        exact hbound

/-- preparing that went well leaves every name bound -/
theorem bound_of_materialize {entries : List (String × Tensor)} (hown : ∀ e ∈ entries, e.2.name = e.1)
    {s s' : Session σ τ} {u : Unit} (h : materialize entries s = .ok u s') : ∀ e ∈ entries, s'.isBound e.1 = true := by
  induction entries generalizing s with
  | nil => intro e he; cases he
  | cons entry rest ih =>
    obtain ⟨key, t⟩ := entry
    obtain rfl : t.name = key := hown (key, t) List.mem_cons_self
    rw [materialize, bind_apply] at h
    cases hp : prepare t.name t s with
    | error e s₁ => rw [hp] at h; cases h
    | ok v s₁ =>
      rw [hp] at h
      dsimp only at h
      have hfirst := keeps_materialize (keeps_bound_bindTensor t.name) (keeps_bound_store t.name) rest s₁
        (bound_of_prepare hp)
      rw [h] at hfirst
      rintro e (_ | ⟨_, he⟩)
      · exact hfirst
      · exact ih (fun e' he' => hown e' (List.mem_cons_of_mem _ he')) h e he

end TensorGraph.Session
