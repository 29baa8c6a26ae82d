/-
Where actions take a session.

Model: a `Motion` is a relation between an earlier and a later state of a session that every storage request keeps to,
whether or not it goes well. An action is `Elementary` in a motion if it keeps to it too, and if its faults do not say
which operation of a run they are about: only the run itself says so.

Main results:
- `Elementary.bindTensor`, `.store`, `.load`, `.clear`, `.lookingUp`: every action that makes storage requests only is
  elementary, in every motion;
- `Elementary.perform`, `.performNamed`: so is every operation, if the requests that operators make keep to the motion.
-/
import TensorGraph.Proofs.Invariant
import TensorGraph.Proofs.Supply

namespace TensorGraph

/-! ## Model -/

/-- whether a fault says which operation of a run it is about -/
def RunError.isOperation : RunError → Bool
  | .operation .. => true
  | _ => false

theorem RunError.IsComplaint.not_isOperation {e : RunError} (h : e.IsComplaint) : e.isOperation = false := by
  cases e <;> first | rfl | cases h

/-- a relation between earlier and later states of a session that storage requests keep to -/
structure Motion (σ τ : Type) [Engine σ τ] where
  Moves : Session σ τ → Session σ τ → Prop
  refl : ∀ s, Moves s s
  trans : ∀ {s t u : Session σ τ}, Moves s t → Moves t u → Moves s u
  /-- what the session knows about its handles is free to change -/
  names : ∀ (s : Session σ τ) (bindings : NameMap τ) (reserved : List String) (scratch : List τ),
    Moves s { s with bindings, reserved, scratch }
  allocate : ∀ (kind : ElementKind) (shape : List Nat) (s : Session σ τ),
    Moves s (reached (Session.invoke .allocate (Engine.allocate kind shape) s))
  release : ∀ (t : τ) (s : Session σ τ), Moves s (reached (Session.invoke .release (Engine.release t) s))
  fill : ∀ (t : τ) (p : Payload) (s : Session σ τ), Moves s (reached (Session.invoke .fill (Engine.fill t p) s))
  read : ∀ (t : τ) (s : Session σ τ), Moves s (reached (Session.invoke .read (Engine.read t) s))

namespace Session

variable {σ τ α β : Type} [Engine σ τ]

/-- an action that keeps to a motion, and whose faults are not about operations of a run -/
structure Elementary (M : Motion σ τ) (act : SessionM σ τ α) : Prop where
  moves : ∀ s, M.Moves s (reached (act s))
  unwrapped : ∀ s e, fault? (act s) = some e → e.isOperation = false

namespace Elementary

variable {M : Motion σ τ}

/-! ## Sequences -/

theorem pure (a : α) : Elementary M (pure a) := ⟨M.refl, fun _ _ h => nomatch h⟩

theorem throw {e : RunError} (h : e.isOperation = false) : Elementary M (throw e : SessionM σ τ α) where
  moves := M.refl
  unwrapped s e' h' := by
    cases h'
    exact h

theorem bind {x : SessionM σ τ α} {k : α → SessionM σ τ β} (hx : Elementary M x) (hk : ∀ a, Elementary M (k a)) :
    Elementary M (x >>= k) := by
  constructor
  · intro s
    have h := hx.moves s
    rw [bind_apply]
    cases hx' : x s with
    | error e s₁ => rwa [hx'] at h
    | ok a s₁ =>
      rw [hx'] at h
      exact M.trans h ((hk a).moves s₁)
  · intro s e h
    rw [bind_apply] at h
    cases hx' : x s with
    | error e₁ s₁ =>
      rw [hx'] at h
      exact hx.unwrapped s e (hx' ▸ h)
    | ok a s₁ =>
      rw [hx'] at h
      exact (hk a).unwrapped s₁ e h

theorem both {x y : SessionM σ τ Unit} (hx : Elementary M x) (hy : Elementary M y) : Elementary M (both x y) := by
  constructor
  · intro s
    rw [reached_both]
    exact M.trans (hx.moves s) (hy.moves _)
  · intro s e h
    rw [fault?_both, Option.or_eq_some_iff] at h
    rcases h with h | ⟨-, h⟩
    · exact hx.unwrapped s e h
    · exact hy.unwrapped _ e h

/-! ## Requests -/

theorem invoke {p : Primitive} {act : EStateM String σ α} (h : ∀ s, M.Moves s (reached (invoke p act s))) :
    Elementary M (invoke p act) := by
  refine ⟨h, fun s e he => ?_⟩
  rw [fault?_invoke, Option.map_eq_some_iff] at he
  obtain ⟨why, -, rfl⟩ := he
  rfl

theorem handle (name : String) : Elementary M (handle name) := by
  constructor <;> intro s <;> unfold Session.handle
  · cases s.bindings.find? name <;> exact M.refl s
  · intro e h
    cases hf : s.bindings.find? name <;> rw [hf] at h <;> cases h
    rfl

theorem releaseAll (ts : List τ) : Elementary M (releaseAll ts) := by
  induction ts with
  | nil => exact pure ()
  | cons t rest ih => exact (invoke (M.release t)).both ih

theorem literal (l : Literal) : Elementary M (literal l) := by
  refine (invoke (M.allocate _ _)).bind fun t => ?_
  have hkeep : Elementary M (modify fun s : Session σ τ => { s with scratch := s.scratch ++ [t] }) :=
    ⟨fun s => M.names s s.bindings s.reserved _, fun _ _ h => nomatch h⟩
  exact hkeep.bind fun _ => (invoke (M.fill t _)).bind fun _ => pure t

/-! ## Named tensors -/

theorem bindTensor (t : Tensor) : Elementary M (bindTensor t) := by
  constructor <;> intro s
  · have hreached := M.allocate t.kind t.shape s
    rw [reached_invoke] at hreached
    rcases bindTensor_cases t s with ⟨-, h⟩ | ⟨-, -, h⟩ | ⟨-, -, ⟨why, e, hal, h⟩ | ⟨u, e, hal, h⟩⟩ <;> rw [h]
    · exact M.refl s
    · exact M.refl s
    · rwa [hal] at hreached
    · rw [hal] at hreached
      exact M.trans hreached (M.names _ _ _ _)
  · intro e he
    rcases bindTensor_cases t s with ⟨-, h⟩ | ⟨-, -, h⟩ | ⟨-, -, ⟨why, e, -, h⟩ | ⟨u, e, -, h⟩⟩ <;>
      rw [h] at he <;> cases he <;> rfl

theorem store (t : Tensor) : Elementary M (store t) := by
  unfold Session.store
  split
  · exact throw rfl
  · exact (handle _).bind fun h => invoke (M.fill h _)

theorem load (t : Tensor) : Elementary M (load t) :=
  (handle _).bind fun h => (invoke (M.read h)).bind fun _ => pure _

theorem clear : Elementary M clear where
  moves s := M.trans (M.names s _ _ _) ((releaseAll _).moves _)
  unwrapped _ := (releaseAll (M := M) _).unwrapped _

theorem prepare (key : String) (t : Tensor) : Elementary M (prepare key t) := by
  have hnew : Elementary M (do Session.bindTensor t; if t.data.isSome then Session.store t) := by
    refine (bindTensor t).bind fun _ => ?_
    split
    · exact store t
    · exact pure ()
  constructor <;> intro s <;> unfold Session.prepare <;> split
  · exact M.refl s
  · exact hnew.moves s
  · exact fun e h => nomatch h
  · exact hnew.unwrapped s

theorem materialize (entries : List (String × Tensor)) : Elementary M (materialize entries) := by
  induction entries with
  | nil => exact pure ()
  | cons e rest ih => exact (prepare e.1 e.2).bind fun _ => ih

theorem prepareAll (options : RunOptions) (g : Graph) : Elementary M (prepareAll options g) := by
  unfold Session.prepareAll
  split
  · exact materialize _
  · exact pure ()

/-! ## Operations -/

theorem releaseScratch : Elementary M releaseScratch where
  moves s := M.trans (M.names s s.bindings s.reserved []) ((releaseAll _).moves _)
  unwrapped _ := (releaseAll (M := M) _).unwrapped _

/-- looking up operands is elementary -/
def lookingUp (M : Motion σ τ) : Collection (supply : Supply (SessionM σ τ) τ) where
  Yields x _ := Elementary M x
  pure a _ _ := pure a
  throw _ h := throw h.isComplaint.not_isOperation
  bind := bind
  pair _ _ hx hy _ := hx.bind fun _ => hy.bind fun _ => pure _
  named := handle
  literal := literal

theorem decided {x : Except RunError α} (h : Complains x) : Elementary M (decided x) := by
  cases x with
  | ok a => exact pure a
  | error e => exact throw (RunError.IsComplaint.not_isOperation h)

variable [Handle τ]

section

variable (hissue : ∀ i, Elementary M (issue i))

include hissue

theorem dispatch (o : Operator) (op : Operation) : Elementary M (dispatch o op) :=
  (decided (Operator.complains_precheck o op)).bind fun _ => ((lookingUp M).fillSlots op o.signature).bind fun xs =>
    (decided (Operator.complains_plan o op xs)).bind fun i => hissue i

theorem perform (o : Operator) (op : Operation) : Elementary M (perform o op) := by
  unfold Session.perform
  split
  · exact (dispatch hissue o op).both releaseScratch
  · exact throw rfl

theorem performNamed (op : Operation) : Elementary M (performNamed op) := by
  unfold Session.performNamed
  split
  · exact perform hissue _ op
  · exact throw rfl

end

end Elementary

end Session

/-! ## Requests -/

/-- requests are counted, and none is taken back -/
def Motion.counting {σ τ : Type} [Engine σ τ] : Motion σ τ where
  Moves s s' := s.requests ≤ s'.requests
  refl _ := Nat.le_refl _
  trans := Nat.le_trans
  names _ _ _ _ := Nat.le_refl _
  allocate _ _ s := Session.reached_invoke .allocate _ s ▸ Nat.le_succ _
  release _ s := Session.reached_invoke .release _ s ▸ Nat.le_succ _
  fill _ _ s := Session.reached_invoke .fill _ s ▸ Nat.le_succ _
  read _ s := Session.reached_invoke .read _ s ▸ Nat.le_succ _

theorem Session.Elementary.issue {σ τ : Type} [Engine σ τ] (i : Instruction τ) :
    Elementary Motion.counting (issue i : SessionM σ τ Unit) := by
  have hinvoke : ∀ (p : Primitive) (act : EStateM String σ Unit),
      Elementary Motion.counting (Session.invoke p act : SessionM σ τ Unit) := fun p act =>
    .invoke fun s => reached_invoke p act s ▸ Nat.le_succ _
  cases i with
  | idle => exact .pure ()
  | fill t p => exact hinvoke .fill _
  | copy x y => exact hinvoke .copy _
  | compute name k => exact hinvoke name _

end TensorGraph
