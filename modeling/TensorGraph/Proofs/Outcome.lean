/-
What a step of a session comes to: the state it reaches, and the fault it reports.

Model: a step that fails keeps the state it reached, so every step reaches one (`reached`); `fault?` is what it says
about itself. The lemmas say how both go through sequences and through `both`, which never skips its second step.
-/
import TensorGraph.Run.Session

namespace TensorGraph

variable {ε σ υ α β γ : Type}

/-! ## Results -/

/-- the state that was reached, whether or not all went well -/
def reached : EStateM.Result ε σ α → σ
  | .ok _ s => s
  | .error _ s => s

/-- what went wrong, if anything -/
def fault? : EStateM.Result ε σ α → Option ε
  | .ok .. => none
  | .error e _ => some e

/-- the same result about other values and other states -/
def mapResult (f : α → β) (g : σ → υ) : EStateM.Result ε σ α → EStateM.Result ε υ β
  | .ok a s => .ok (f a) (g s)
  | .error e s => .error e (g s)

@[simp] theorem reached_ok (a : α) (s : σ) : reached (.ok a s : EStateM.Result ε σ α) = s := rfl

@[simp] theorem reached_error (e : ε) (s : σ) : reached (.error e s : EStateM.Result ε σ α) = s := rfl

@[simp] theorem fault?_ok (a : α) (s : σ) : fault? (.ok a s : EStateM.Result ε σ α) = none := rfl

@[simp] theorem fault?_error (e : ε) (s : σ) : fault? (.error e s : EStateM.Result ε σ α) = some e := rfl

@[simp] theorem mapResult_ok (f : α → β) (g : σ → υ) (a : α) (s : σ) :
    mapResult f g (.ok a s : EStateM.Result ε σ α) = .ok (f a) (g s) := rfl

@[simp] theorem mapResult_error (f : α → β) (g : σ → υ) (e : ε) (s : σ) :
    mapResult f g (.error e s : EStateM.Result ε σ α) = .error e (g s) := rfl

theorem reached_mapResult (f : α → β) (g : σ → υ) (r : EStateM.Result ε σ α) :
    reached (mapResult f g r) = g (reached r) := by
  cases r <;> rfl

theorem fault?_mapResult (f : α → β) (g : σ → υ) (r : EStateM.Result ε σ α) :
    fault? (mapResult f g r) = fault? r := by
  cases r <;> rfl

/-- what has no fault went well -/
theorem exists_ok_iff {r : EStateM.Result ε σ Unit} : (∃ s, r = .ok () s) ↔ fault? r = none := by
  cases r <;> simp

/-! ## Sequences -/

/-- a sequence goes on from where its first step ended well -/
theorem bind_apply (x : EStateM ε σ α) (k : α → EStateM ε σ β) (s : σ) :
    (x >>= k) s = match x s with
      | .ok a s => k a s
      | .error e s => .error e s := rfl

theorem bind_of_ok {x : EStateM ε σ α} {s s' : σ} {a : α} (h : x s = .ok a s') (k : α → EStateM ε σ β) :
    (x >>= k) s = k a s' := by
  rw [bind_apply, h]

theorem bind_of_error {x : EStateM ε σ α} {s s' : σ} {e : ε} (h : x s = .error e s') (k : α → EStateM ε σ β) :
    (x >>= k) s = .error e s' := by
  rw [bind_apply, h]

theorem bind_pure_apply (x : EStateM ε σ α) (f : α → β) (s : σ) :
    (x >>= fun a => pure (f a)) s = mapResult f id (x s) := by
  rw [bind_apply]
  cases x s <;> rfl

@[simp] theorem pure_apply (a : α) (s : σ) : (pure a : EStateM ε σ α) s = .ok a s := rfl

@[simp] theorem modify_apply (f : σ → σ) (s : σ) : (modify f : EStateM ε σ PUnit) s = .ok ⟨⟩ (f s) := rfl

@[simp] theorem throw_apply (e : ε) (s : σ) : (throw e : EStateM ε σ α) s = .error e s := rfl

namespace Session

variable {τ : Type}

/-- the second of `both` starts where the first ended, well or not -/
theorem both_apply (x y : SessionM σ τ Unit) (s : Session σ τ) :
    both x y s = match fault? (x s) with
      | none => y (reached (x s))
      | some e => .error e (reached (y (reached (x s)))) := by
  unfold both
  cases x s with
  | ok a s => rfl
  | error e s => cases hy : y s <;> simp [hy]

theorem reached_both (x y : SessionM σ τ Unit) (s : Session σ τ) :
    reached (both x y s) = reached (y (reached (x s))) := by
  rw [both_apply]
  cases fault? (x s) <;> rfl

theorem fault?_both (x y : SessionM σ τ Unit) (s : Session σ τ) :
    fault? (both x y s) = (fault? (x s)).or (fault? (y (reached (x s)))) := by
  rw [both_apply]
  cases fault? (x s) <;> rfl

theorem reached_invoke (p : Primitive) (act : EStateM String σ α) (s : Session σ τ) :
    reached (invoke p act s) = { s with engine := reached (act s.engine), requests := s.requests + 1 } := by
  unfold invoke
  cases act s.engine <;> rfl

theorem fault?_invoke (p : Primitive) (act : EStateM String σ α) (s : Session σ τ) :
    fault? (invoke p act s) = (fault? (act s.engine)).map (RunError.engine p) := by
  unfold invoke
  cases act s.engine <;> rfl

/-! ## Named tensors -/

variable [Engine σ τ]

/-- a creation is refused, fails to allocate, or binds what was allocated -/
theorem bindTensor_cases (t : Tensor) (s : Session σ τ) :
    (s.isTaken t.name = true ∧ bindTensor t s = .error (.duplicateTensor t.name) s) ∨
    (s.isTaken t.name = false ∧ t.kind.isConcrete = false ∧
      bindTensor t s = .error (.unsupportedKind t.name t.kind) s) ∨
    (s.isTaken t.name = false ∧ t.kind.isConcrete = true ∧
      ((∃ why e, (Engine.allocate t.kind t.shape : EStateM String σ τ) s.engine = .error why e ∧
        bindTensor t s = .error (.engine .allocate why) { s with engine := e, requests := s.requests + 1 }) ∨
      (∃ h e, (Engine.allocate t.kind t.shape : EStateM String σ τ) s.engine = .ok h e ∧
        bindTensor t s = .ok ()
          { s with engine := e, bindings := s.bindings.insert t.name h, requests := s.requests + 1 }))) := by
  unfold bindTensor
  cases htaken : s.isTaken t.name with
  | true => exact Or.inl ⟨rfl, rfl⟩
  | false =>
    cases hkind : t.kind.isConcrete with
    | false => exact Or.inr (Or.inl ⟨rfl, rfl, rfl⟩)
    | true =>
      refine Or.inr (Or.inr ⟨rfl, rfl, ?_⟩)
      unfold invoke
      cases hal : (Engine.allocate t.kind t.shape : EStateM String σ τ) s.engine with
      | error why e => exact Or.inl ⟨why, e, rfl, rfl⟩
      | ok h e => exact Or.inr ⟨h, e, rfl, rfl⟩

/-- a payload goes to the handle of its name -/
theorem store_apply (t : Tensor) (s : Session σ τ) :
    store t s = match t.data, s.bindings.find? t.name with
      | none, _ => .error (.malformedOperand "write_tensor" t.name "tensor has no literal payload") s
      | some _, none => .error (.unboundTensor t.name) s
      | some p, some h => invoke .fill (Engine.fill h p) s := by
  unfold store
  cases t.data with
  | none => rfl
  | some p =>
    dsimp only
    rw [bind_apply, handle]
    cases s.bindings.find? t.name <;> rfl

/-- a tensor is read from the handle of its name -/
theorem load_apply (t : Tensor) (s : Session σ τ) :
    load t s = match s.bindings.find? t.name with
      | none => .error (.unboundTensor t.name) s
      | some h => mapResult (fun p => { t with data := some p }) id (invoke .read (Engine.read h) s) := by
  unfold load
  rw [bind_apply, handle]
  cases s.bindings.find? t.name with
  | none => rfl
  | some h => exact bind_pure_apply _ _ s

end Session

end TensorGraph
