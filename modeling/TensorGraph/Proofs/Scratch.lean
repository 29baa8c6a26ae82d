/-
The scratch tensors of an operation on a recorder.

Model: the literals of an operation go to buffers with the next free numbers, one after another. Since an operation is
decided from kinds and shapes alone, storing its literals, deciding and making the one request can be told apart
(`dispatch_eq`), and each of the three has a closed form.

Main results:
- `dispatch_eq`: an operation stores the literals of its decision and then does what was decided;
- `releaseAll_of_live`: live scratch tensors are all released, and nothing else is touched.
-/
import TensorGraph.Proofs.Custody
import TensorGraph.Proofs.Recording

namespace TensorGraph

/-! ## Model -/

/-- the buffers of literals, numbered from `first` on -/
def literalRefs (first : Nat) : List Literal → List BufferRef
  | [] => []
  | l :: rest => ⟨first, l.kind, []⟩ :: literalRefs (first + 1) rest

/-- the requests that store literals in buffers numbered from `first` on -/
def literalCalls (first : Nat) : List Literal → List Call
  | [] => []
  | l :: rest => .allocate first l.kind [] :: .fill first :: literalCalls (first + 1) rest

/-- the buffer of an operand, if those of literals are numbered from `first` on -/
def Operand.ref (first : Nat) : Operand BufferRef → BufferRef
  | .bound t => t
  | .literal number l => ⟨first + number, l.kind, []⟩

theorem Operand.sameView_ref (first : Nat) : SameView (Operand.ref first) where
  kind
    | .bound _ => rfl
    | .literal _ _ => rfl
  shape
    | .bound _ => rfl
    | .literal _ _ => rfl

/-- the buffer that a request allocates -/
def Call.allocated? : Call → Option Nat
  | .allocate id _ _ => some id
  | _ => none

namespace Recorder

/-- a recorder after storing literals in new buffers -/
def storing (r : Recorder) : List Literal → Recorder
  | [] => r
  | l :: rest => storing ((r.adding l.kind [] l.toPayload).noting (.fill r.buffers.size)) rest

/-- a recorder after releasing live buffers -/
def releasing (r : Recorder) : List Nat → Recorder
  | [] => r
  | id :: rest => releasing (r.setting id none (.release id)) rest

end Recorder

namespace Session

/-- a session after storing literals in new scratch tensors -/
def storing (s : Session Recorder BufferRef) (ls : List Literal) : Session Recorder BufferRef :=
  { s with
    engine := s.engine.storing ls
    scratch := s.scratch ++ literalRefs s.engine.buffers.size ls
    requests := s.requests + 2 * ls.length }

/-- store literals in scratch tensors, one after another -/
def storeLiterals {σ τ : Type} [Engine σ τ] : List Literal → SessionM σ τ Unit
  | [] => pure ()
  | l :: rest => do
    let _ ← literal l
    storeLiterals rest

end Session

/-! ## Storing literals -/

theorem Recorder.setting_adding (r : Recorder) (kind : ElementKind) (shape : List Nat) (p q : Payload) (c : Call) :
    (r.adding kind shape p).setting r.buffers.size (some q) c = (r.adding kind shape q).noting c := by
  have hset : (r.buffers.push (some p)).setIfInBounds r.buffers.size (some q) = r.buffers.push (some q) :=
    Array.ext' (by simp)
  simp only [adding, setting, noting, hset]

theorem length_literalRefs (first : Nat) (ls : List Literal) : (literalRefs first ls).length = ls.length := by
  induction ls generalizing first with
  | nil => rfl
  | cons l rest ih => simp [literalRefs, ih]

theorem literalRefs_append (first : Nat) (ls ms : List Literal) :
    literalRefs first (ls ++ ms) = literalRefs first ls ++ literalRefs (first + ls.length) ms := by
  induction ls generalizing first with
  | nil => rfl
  | cons l rest ih =>
    simp only [List.cons_append, literalRefs, ih, List.length_cons]
    rw [Nat.add_right_comm, Nat.add_assoc]

theorem ids_literalRefs (first : Nat) (ls : List Literal) :
    (literalRefs first ls).map BufferRef.id = List.range' first ls.length := by
  induction ls generalizing first with
  | nil => rfl
  | cons l rest ih => simp [literalRefs, ih, List.range'_succ]

theorem literalCalls_append (first : Nat) (ls ms : List Literal) :
    literalCalls first (ls ++ ms) = literalCalls first ls ++ literalCalls (first + ls.length) ms := by
  induction ls generalizing first with
  | nil => rfl
  | cons l rest ih =>
    simp only [List.cons_append, literalCalls, ih, List.length_cons]
    rw [Nat.add_right_comm, Nat.add_assoc]

theorem allocated_literalCalls (first : Nat) (ls : List Literal) :
    (literalCalls first ls).filterMap Call.allocated? = List.range' first ls.length := by
  induction ls generalizing first with
  | nil => rfl
  | cons l rest ih =>
    rw [literalCalls, List.length_cons, List.range'_succ, ← ih]
    rfl

namespace Recorder

theorem storing_append (r : Recorder) (ls ms : List Literal) : r.storing (ls ++ ms) = (r.storing ls).storing ms := by
  induction ls generalizing r with
  | nil => rfl
  | cons l rest ih => exact ih _

@[simp] theorem failOn_storing (r : Recorder) (ls : List Literal) : (r.storing ls).failOn = r.failOn := by
  induction ls generalizing r with
  | nil => rfl
  | cons l rest ih => exact ih _

@[simp] theorem size_storing (r : Recorder) (ls : List Literal) :
    (r.storing ls).buffers.size = r.buffers.size + ls.length := by
  induction ls generalizing r with
  | nil => rfl
  | cons l rest ih =>
    rw [storing, ih, size_noting, size_adding, List.length_cons]
    omega

theorem log_storing (r : Recorder) (ls : List Literal) :
    (r.storing ls).log.toList = r.log.toList ++ literalCalls r.buffers.size ls := by
  induction ls generalizing r with
  | nil => simp [storing, literalCalls]
  | cons l rest ih =>
    rw [storing, ih]
    simp [literalCalls]

/-- what was there before is still there, and the new buffers hold the literals -/
theorem data?_storing (r : Recorder) (ls : List Literal) (j : Nat) :
    (r.storing ls).data? j =
      if j < r.buffers.size then r.data? j else (ls[j - r.buffers.size]?).map Literal.toPayload := by
  induction ls generalizing r with
  | nil =>
    split
    · rfl
    · rename_i hj
      simpa [storing] using data?_eq_none_of_le (Nat.le_of_not_lt hj)
  | cons l rest ih =>
    rw [storing, ih, data?_noting, data?_adding, size_noting, size_adding]
    rcases Nat.lt_trichotomy j r.buffers.size with hlt | rfl | hgt
    · rw [if_pos (by omega), if_pos hlt, if_neg (by omega)]
    · rw [if_pos (by omega), if_pos rfl, if_neg (by omega)]
      simp
    · obtain ⟨k, rfl⟩ : ∃ k, j = r.buffers.size + 1 + k := ⟨j - (r.buffers.size + 1), by omega⟩
      rw [if_neg (by omega), if_neg (by omega)]
      rw [show r.buffers.size + 1 + k - (r.buffers.size + 1) = k by omega,
        show r.buffers.size + 1 + k - r.buffers.size = k + 1 by omega]
      simp

theorem data?_storing_of_some {r : Recorder} {id : Nat} {p : Payload} (ls : List Literal) (h : r.data? id = some p) :
    (r.storing ls).data? id = some p := by
  rw [data?_storing, if_pos (lt_size_of_data? h), h]

end Recorder

namespace Session

@[simp] theorem storing_nil (s : Session Recorder BufferRef) : s.storing [] = s := by
  simp [storing, Recorder.storing, literalRefs]

theorem storing_append (s : Session Recorder BufferRef) (ls ms : List Literal) :
    s.storing (ls ++ ms) = (s.storing ls).storing ms := by
  simp only [storing, Recorder.storing_append, Recorder.size_storing, literalRefs_append, List.append_assoc,
    List.length_append]
  congr 1
  omega

theorem storeLiterals_append {σ τ : Type} [Engine σ τ] (ls ms : List Literal) (s : Session σ τ) :
    storeLiterals (ls ++ ms) s = (do storeLiterals ls; storeLiterals ms) s := by
  induction ls generalizing s with
  | nil => rfl
  | cons l rest ih =>
    simp only [List.cons_append, storeLiterals, bind_apply]
    cases literal l s with
    | error e s₁ => rfl
    | ok t s₁ =>
      dsimp only
      rw [ih, bind_apply]

/-- a literal goes to the next free buffer, unless it cannot be allocated or cannot be filled -/
theorem literal_cases (l : Literal) (s : Session Recorder BufferRef) :
    (s.engine.Refuses .allocate ∧
      literal l s =
        .error (.engine .allocate (Fault.injected .allocate).message) { s with requests := s.requests + 1 }) ∨
    (s.engine.Refuses .fill ∧ ∃ zeros,
      literal l s = .error (.engine .fill (Fault.injected .fill).message)
        { s with
          engine := s.engine.adding l.kind [] zeros
          scratch := s.scratch ++ [⟨s.engine.buffers.size, l.kind, []⟩]
          requests := s.requests + 2 }) ∨
    (¬ s.engine.Refuses .allocate ∧ ¬ s.engine.Refuses .fill ∧
      literal l s = .ok ⟨s.engine.buffers.size, l.kind, []⟩ (s.storing [l])) := by
  rw [literal_apply]
  by_cases ha : s.engine.Refuses .allocate
  · refine Or.inl ⟨ha, ?_⟩
    rw [Recorder.engine_allocate, Recorder.inWords_apply, Recorder.allocate_refused ha]
  right
  have hconcrete : l.kind.isConcrete = true := by cases l <;> rfl
  obtain ⟨zeros, hz, hkind, hlen⟩ := Recorder.exists_zeros hconcrete (volume [])
  rw [Recorder.engine_allocate, Recorder.inWords_apply, Recorder.allocate_apply ha hz]
  dsimp only
  by_cases hf : s.engine.Refuses .fill
  · refine Or.inl ⟨hf, zeros, ?_⟩
    have hf' : (s.engine.adding l.kind [] zeros).Refuses .fill := hf
    rw [Recorder.engine_fill, Recorder.inWords_apply, Recorder.fill_refused hf']
  refine Or.inr ⟨ha, hf, ?_⟩
  have hfits : Recorder.fits zeros l.toPayload = true := by
    rw [Recorder.fits_iff, hkind, hlen, Literal.kind_toPayload, Literal.length_toPayload]
    exact ⟨rfl, rfl⟩
  have hlive : (s.engine.adding l.kind [] zeros).data? s.engine.buffers.size = some zeros := by
    rw [Recorder.data?_adding, if_pos rfl]
  have hf' : ¬ (s.engine.adding l.kind [] zeros).Refuses .fill := hf
  rw [Recorder.engine_fill, Recorder.inWords_apply,
    Recorder.fill_apply (t := ⟨s.engine.buffers.size, l.kind, []⟩) hf' hlive, if_pos hfits, Recorder.setting_adding]
  rfl

/-- what holds of a session in which nothing happened since another one, but that literals were stored -/
structure Stored (s s' : Session Recorder BufferRef) (calls : List Call) : Prop where
  bindings : s'.bindings = s.bindings
  reserved : s'.reserved = s.reserved
  failOn : s'.engine.failOn = s.engine.failOn
  log : s'.engine.log.toList = s.engine.log.toList ++ calls
  /-- one new scratch tensor for every allocation, and one new buffer that it stands for -/
  scratch : ∃ new, s'.scratch = s.scratch ++ new ∧ new.map BufferRef.id = calls.filterMap Call.allocated? ∧
    new.map BufferRef.id = List.range' s.engine.buffers.size new.length ∧
    s'.engine.buffers.size = s.engine.buffers.size + new.length
  old : ∀ j, j < s.engine.buffers.size → s'.engine.data? j = s.engine.data? j
  new : ∀ j, s.engine.buffers.size ≤ j → j < s'.engine.buffers.size → (s'.engine.data? j).isSome

theorem stored_storing (s : Session Recorder BufferRef) (ls : List Literal) :
    Stored s (s.storing ls) (literalCalls s.engine.buffers.size ls) where
  bindings := rfl
  reserved := rfl
  failOn := s.engine.failOn_storing ls
  log := s.engine.log_storing ls
  scratch := ⟨literalRefs s.engine.buffers.size ls, rfl, by rw [ids_literalRefs, allocated_literalCalls],
    by rw [ids_literalRefs, length_literalRefs], by rw [length_literalRefs]; exact s.engine.size_storing ls⟩
  old j hj := by rw [show (s.storing ls).engine = s.engine.storing ls from rfl, Recorder.data?_storing, if_pos hj]
  new j hj hlt := by
    have hlt : j < s.engine.buffers.size + ls.length := by rwa [← s.engine.size_storing ls]
    rw [show (s.storing ls).engine = s.engine.storing ls from rfl, Recorder.data?_storing, if_neg (by omega),
      Option.isSome_map, List.getElem?_eq_getElem (by omega)]
    rfl

/-- literals are all stored, or the recorder fails to allocate or to fill and storing them stops -/
theorem storeLiterals_cases (ls : List Literal) (s : Session Recorder BufferRef) :
    storeLiterals ls s = .ok () (s.storing ls) ∨
    ∃ p s' stored, (p = .allocate ∨ p = .fill) ∧ s.engine.Refuses p ∧
      storeLiterals ls s = .error (.engine p (Fault.injected p).message) s' ∧
      stored <+: literalCalls s.engine.buffers.size ls ∧ Stored s s' stored := by
  induction ls generalizing s with
  | nil => exact Or.inl (congrArg _ (storing_nil s).symm)
  | cons l rest ih =>
    rcases literal_cases l s with ⟨ha, hl⟩ | ⟨hf, zeros, hl⟩ | ⟨ha, hf, hl⟩
    · refine Or.inr ⟨.allocate, _, [], Or.inl rfl, ha, by rw [storeLiterals, bind_apply, hl], List.nil_prefix, ?_⟩
      exact ⟨rfl, rfl, rfl, (List.append_nil _).symm, ⟨[], (List.append_nil _).symm, rfl, rfl, rfl⟩, fun _ _ => rfl,
        fun j hj hlt => absurd hlt (Nat.not_lt.2 hj)⟩
    · refine Or.inr ⟨.fill, _, [.allocate s.engine.buffers.size l.kind []], Or.inr rfl, hf,
        by rw [storeLiterals, bind_apply, hl], ⟨_, rfl⟩, ?_⟩
      refine ⟨rfl, rfl, rfl, Recorder.log_adding .., ⟨[_], rfl, rfl, rfl, Recorder.size_adding ..⟩, fun j hj => ?_,
        fun j hj hlt => ?_⟩
      · rw [Recorder.data?_adding, if_neg (Nat.ne_of_lt hj)]
      · rw [Recorder.size_adding] at hlt
        rw [Recorder.data?_adding, if_pos (by omega)]
        rfl
    · left
      rw [storeLiterals, bind_apply, hl]
      rcases ih (s.storing [l]) with h | ⟨p, s', stored, hp, hr, -⟩
      · dsimp only
        rw [h, ← storing_append]
        rfl
      · rcases hp with rfl | rfl
        · exact absurd hr ha
        · exact absurd hr hf

theorem eq_storing_of_ok {ls : List Literal} {s s' : Session Recorder BufferRef} (h : storeLiterals ls s = .ok () s') :
    s' = s.storing ls := by
  rcases storeLiterals_cases ls s with h' | ⟨p, s₁, stored, -, -, h', -⟩
  · rw [h'] at h
    cases h
    rfl
  · rw [h'] at h
    cases h

/-! ## Operations -/

/-- what a look-up on paper comes to -/
def settled {σ τ α β : Type} (g : α → β) : EStateM.Result RunError (List Literal) α → SessionM σ τ β
  | .ok a _ => pure (g a)
  | .error e _ => throw e

/-- a look-up in a session that stores what the look-up on paper sees: where the literals seen so far are stored, it
stores those seen next, and comes to the same -/
structure Stores {α β : Type} (s : Session Recorder BufferRef) (g : α → β) (x : Lookup α)
    (x' : SessionM Recorder BufferRef β) : Prop where
  grows : ∀ seen, seen <+: reached (x seen)
  follows : ∀ {seen more : List Literal} {s' : Session Recorder BufferRef}, storeLiterals seen s = .ok () s' →
    reached (x seen) = seen ++ more → x' s' = (do storeLiterals more; settled g (x seen)) s'

namespace Stores

variable {α α' β β' : Type} {s : Session Recorder BufferRef} {g : α → α'} {h : β → β'}

/-- what sees no literal stores none -/
theorem of_unseen {x : Lookup α} {x' : SessionM Recorder BufferRef α'} (hx : ∀ seen, reached (x seen) = seen)
    (hx' : ∀ seen, x' (s.storing seen) = settled g (x seen) (s.storing seen)) : Stores s g x x' := by
  refine ⟨fun seen => by rw [hx], fun {seen more s'} hs' hmore => ?_⟩
  obtain rfl := eq_storing_of_ok hs'
  obtain rfl : more = [] := by simpa [hx] using hmore
  rw [hx']
  rfl

theorem bind {x : Lookup α} {x' : SessionM Recorder BufferRef α'} {k : α → Lookup β}
    {k' : α' → SessionM Recorder BufferRef β'} (hx : Stores s g x x') (hk : ∀ a, Stores s h (k a) (k' (g a))) :
    Stores s h (x >>= k) (x' >>= k') := by
  refine ⟨fun seen => ?_, fun {seen more s'} hs' hmore => ?_⟩
  · have hgrows := hx.grows seen
    rw [bind_apply]
    cases hxs : x seen with
    | error e all => rw [hxs] at hgrows; exact hgrows
    | ok a all => rw [hxs] at hgrows; exact hgrows.trans ((hk a).grows all)
  · obtain ⟨first, hfirst⟩ := hx.grows seen
    have hfollows := hx.follows hs' hfirst.symm
    cases hxs : x seen with
    | error e all =>
      rw [hxs] at hfollows hfirst
      rw [bind_of_error hxs] at hmore ⊢
      obtain rfl : more = first := List.append_cancel_left (hmore.symm.trans hfirst.symm)
      rw [bind_apply, hfollows, bind_apply, bind_apply]
      cases storeLiterals more s' <;> rfl
    | ok a all =>
      -- the second look-up goes on from what the first one saw and stored
      rw [hxs] at hfollows hfirst
      rw [bind_of_ok hxs] at hmore ⊢
      obtain rfl : seen ++ first = all := hfirst
      obtain ⟨second, hsecond⟩ := (hk a).grows (seen ++ first)
      obtain rfl : more = first ++ second := by
        refine List.append_cancel_left (hmore.symm.trans ?_)
        rw [← hsecond, List.append_assoc]
      rw [bind_apply, hfollows, bind_apply, bind_apply, storeLiterals_append, bind_apply]
      cases hstored : storeLiterals first s' with
      | error e s₁ => rfl
      | ok u s₁ =>
        have hall : storeLiterals (seen ++ first) s = .ok () s₁ := by
          rw [storeLiterals_append, bind_apply, hs']
          exact hstored
        exact (hk a).follows hall hsecond.symm

theorem named (name : String) :
    Stores s (Operand.ref s.engine.buffers.size) (Lookup.named s.bindings.find? name) (handle name) := by
  refine of_unseen (fun seen => ?_) fun seen => ?_
  · unfold Lookup.named
    cases s.bindings.find? name <;> rfl
  · rw [handle, show (s.storing seen).bindings = s.bindings from rfl]
    unfold Lookup.named
    cases s.bindings.find? name <;> rfl

theorem literal (l : Literal) :
    Stores s (Operand.ref s.engine.buffers.size) (Lookup.literal l) (Session.literal l) := by
  refine ⟨fun seen => ⟨[l], rfl⟩, fun {seen more s'} hs' hmore => ?_⟩
  obtain rfl : more = [l] := (List.append_cancel_left hmore).symm
  obtain rfl := eq_storing_of_ok hs'
  have hsize : (s.storing seen).engine.buffers.size = s.engine.buffers.size + seen.length :=
    s.engine.size_storing seen
  rw [bind_apply, storeLiterals, bind_apply]
  rcases literal_cases l (s.storing seen) with ⟨-, hl⟩ | ⟨-, zeros, hl⟩ | ⟨-, -, hl⟩
  · rw [hl]
  · rw [hl]
  · rw [hl, hsize]
    rfl

end Stores

/-- looking up operands is looking them up on paper and storing the literals that were seen -/
def storage (s : Session Recorder BufferRef) :
    Translation (Lookup.supply s.bindings.find?) (supply : Supply (SessionM Recorder BufferRef) BufferRef)
      (Operand.ref s.engine.buffers.size) where
  Rel := Stores s
  pure _ _ := .of_unseen (fun _ => rfl) fun _ => rfl
  throw _ _ _ := .of_unseen (fun _ => rfl) fun _ => rfl
  bind := .bind
  named := .named
  literal := .literal

/-- **Operations in three parts.** An operation stores the literals that it was decided to need, and only then does what
was decided, on their buffers. -/
theorem dispatch_eq (o : Operator) (op : Operation) (s : Session Recorder BufferRef) :
    dispatch o op s = (do
      storeLiterals (o.decision s.bindings.find? op).literals
      let i ← decided (o.decision s.bindings.find? op).outcome
      issue (i.map (Operand.ref s.engine.buffers.size))) s := by
  have hlookup : Stores s _ _ _ := (storage s).fillSlots op o.signature
  unfold dispatch Operator.decision
  cases o.precheck op with
  | error e => rfl
  | ok u =>
    have hstored : storeLiterals [] s = .ok () s := rfl
    have h := hlookup.follows hstored (List.nil_append _).symm
    rw [bind_apply]
    dsimp only [decided, pure_apply]
    rw [bind_apply, h]
    cases hf : (Lookup.supply s.bindings.find?).fillSlots op o.signature [] with
    | error e seen =>
      rw [bind_apply, bind_apply]
      dsimp only [reached_error]
      cases storeLiterals seen s <;> rfl
    | ok xs seen =>
      rw [bind_apply, bind_apply]
      dsimp only [reached_ok]
      cases storeLiterals seen s with
      | error e s₁ => rfl
      | ok u s₁ =>
        dsimp only [settled, pure_apply]
        rw [plan_map (Operand.sameView_ref _)]
        cases o.plan op xs <;> rfl

/-- an operation stores all its literals and makes its request, or it stops before the request with only literals
stored, since it was decided to fail or since the recorder failed to store -/
theorem dispatch_cases (o : Operator) (op : Operation) (s : Session Recorder BufferRef) :
    (∃ i, (o.decision s.bindings.find? op).outcome = .ok i ∧
      dispatch o op s = issue (i.map (Operand.ref s.engine.buffers.size)) (s.storing (o.literals op))) ∨
    ∃ e s' stored, dispatch o op s = .error e s' ∧
      ((o.decision s.bindings.find? op).outcome = .error e ∨
        ∃ p, s.engine.Refuses p ∧ e = .engine p (Fault.injected p).message) ∧
      stored <+: literalCalls s.engine.buffers.size (o.literals op) ∧ Stored s s' stored := by
  obtain ⟨rest, hrest⟩ := prefix_literals_of_decision o s.bindings.find? op
  have hprefix : literalCalls s.engine.buffers.size (o.decision s.bindings.find? op).literals <+:
      literalCalls s.engine.buffers.size (o.literals op) := by
    rw [← hrest, literalCalls_append]
    exact List.prefix_append _ _
  rw [dispatch_eq, bind_apply]
  rcases storeLiterals_cases (o.decision s.bindings.find? op).literals s with
    h | ⟨p, s', stored, -, hr, h, hstored, hs'⟩
  · rw [h]
    cases hd : (o.decision s.bindings.find? op).outcome with
    | error e => exact Or.inr ⟨e, _, _, rfl, Or.inl rfl, hprefix, stored_storing s _⟩
    | ok i =>
      rw [literals_of_decision hd]
      exact Or.inl ⟨i, rfl, rfl⟩
  · rw [h]
    exact Or.inr ⟨_, s', stored, rfl, Or.inr ⟨p, hr, rfl⟩, hstored.trans hprefix, hs'⟩

/-- an operation fails as it was decided to, or since the recorder failed to store, or in its request -/
theorem fault_of_dispatch {o : Operator} {op : Operation} {s : Session Recorder BufferRef} {e : RunError}
    (he : fault? (dispatch o op s) = some e) :
    (o.decision s.bindings.find? op).outcome = .error e ∨
    (∃ p, s.engine.Refuses p ∧ e = .engine p (Fault.injected p).message) ∨
    ∃ i, (o.decision s.bindings.find? op).outcome = .ok i ∧
      fault? (issue (i.map (Operand.ref s.engine.buffers.size)) (s.storing (o.literals op))) = some e := by
  rcases dispatch_cases o op s with ⟨i, hi, hd⟩ | ⟨e', s', stored, hd, hwhy, -⟩
  · rw [hd] at he
    exact Or.inr (Or.inr ⟨i, hi, he⟩)
  · rw [hd] at he
    cases he
    exact hwhy.imp_right Or.inl

end Session

/-! ## Releasing -/

namespace Recorder

theorem log_releasing (r : Recorder) (ids : List Nat) :
    (r.releasing ids).log.toList = r.log.toList ++ ids.map Call.release := by
  induction ids generalizing r with
  | nil => simp [releasing]
  | cons id rest ih => simp [releasing, ih]

/-- released buffers have no contents, all others keep theirs -/
theorem data?_releasing (r : Recorder) (ids : List Nat) (j : Nat) :
    (r.releasing ids).data? j = if j ∈ ids then none else r.data? j := by
  induction ids generalizing r with
  | nil => rfl
  | cons id rest ih =>
    rw [releasing, ih, data?_setting]
    by_cases hrest : j ∈ rest
    · rw [if_pos hrest, if_pos (List.mem_cons_of_mem _ hrest)]
    · rw [if_neg hrest]
      by_cases hid : id = j
      · rw [if_pos (show j ∈ id :: rest from hid ▸ List.mem_cons_self)]
        split_ifs with h
        · rfl
        · exact data?_eq_none_of_le (Nat.le_of_not_lt fun hlt => h ⟨hid, hlt⟩)
      · rw [if_neg fun h => hid h.1, if_neg fun h => (List.mem_cons.1 h).elim (fun h => hid h.symm) hrest]

end Recorder

namespace Session

/-- live tensors are all released -/
theorem releaseAll_of_live {s : Session Recorder BufferRef} {ts : List BufferRef} (hr : ¬ s.engine.Refuses .release)
    (hlive : ∀ t ∈ ts, (s.engine.data? t.id).isSome) (hnodup : (ts.map BufferRef.id).Nodup) :
    releaseAll ts s = .ok () { s with
      engine := s.engine.releasing (ts.map BufferRef.id), requests := s.requests + ts.length } := by
  induction ts generalizing s with
  | nil => rfl
  | cons t rest ih =>
    obtain ⟨p, hp⟩ := Option.isSome_iff_exists.1 (hlive t List.mem_cons_self)
    obtain ⟨hnotin, hnodup⟩ := List.nodup_cons.1 hnodup
    have hfirst : invoke .release (Engine.release t) s = .ok () { s with
        engine := s.engine.setting t.id none (.release t.id), requests := s.requests + 1 } := by
      unfold invoke
      rw [Recorder.engine_release, Recorder.inWords_apply, Recorder.release_apply hr hp]
    rw [releaseAll, both, hfirst]
    dsimp only
    rw [ih (s := { s with engine := s.engine.setting t.id none (.release t.id), requests := s.requests + 1 }) hr ?_
      hnodup]
    · simp only [List.map_cons, Recorder.releasing, List.length_cons]
      congr 2
      omega
    · intro u hu
      have hne : t.id ≠ u.id := fun h => hnotin (h ▸ List.mem_map_of_mem hu)
      rw [Recorder.data?_setting_of_some hp, if_neg hne]
      exact hlive u (List.mem_cons_of_mem _ hu)

/-- a recorder that fails to release keeps all buffers, and is asked for every one of them -/
theorem releaseAll_of_refusing {s : Session Recorder BufferRef} (hr : s.engine.Refuses .release)
    (ts : List BufferRef) :
    releaseAll ts s = if ts = [] then .ok () s
      else .error (.engine .release (Fault.injected .release).message) { s with requests := s.requests + ts.length } := by
  induction ts generalizing s with
  | nil => rfl
  | cons t rest ih =>
    have hfirst : invoke .release (Engine.release t) s =
        .error (.engine .release (Fault.injected .release).message) { s with requests := s.requests + 1 } := by
      unfold invoke
      rw [Recorder.engine_release, Recorder.inWords_apply, Recorder.release_refused hr]
    rw [releaseAll, both, hfirst, if_neg (List.cons_ne_nil t rest)]
    dsimp only
    rw [ih (s := { s with requests := s.requests + 1 }) hr]
    by_cases hrest : rest = []
    · rw [if_pos hrest, hrest]
      rfl
    · rw [if_neg hrest, List.length_cons]
      dsimp only
      congr 2
      omega

end Session

end TensorGraph
