/-
What the primitives of a recorder do to its buffers and its log.

Model: a recorder is looked at through `data?`, the contents of each live buffer, through the number of buffers it ever
had, and through its log. The lemmas give, for every primitive, when it fails and what it leaves.
-/
import Mathlib.Tactic
import TensorGraph.Engine.Recorder
import TensorGraph.Proofs.Decision
import TensorGraph.Run.Operation

namespace TensorGraph

namespace Recorder

variable {α : Type}

/-! ## Contents -/

theorem lt_size_of_data? {r : Recorder} {id : Nat} {p : Payload} (h : r.data? id = some p) : id < r.buffers.size := by
  by_contra hlt
  rw [data?, Array.getElem?_eq_none (Nat.le_of_not_lt hlt)] at h
  cases h

theorem data?_eq_none_of_le {r : Recorder} {id : Nat} (h : r.buffers.size ≤ id) : r.data? id = none := by
  rw [data?, Array.getElem?_eq_none h]
  rfl

/-! ## What primitives leave -/

/-- with one more buffer -/
def adding (r : Recorder) (kind : ElementKind) (shape : List Nat) (p : Payload) : Recorder :=
  { r with buffers := r.buffers.push (some p), log := r.log.push (.allocate r.buffers.size kind shape) }

/-- with other contents in a buffer, or none -/
def setting (r : Recorder) (id : Nat) (contents : Option Payload) (call : Call) : Recorder :=
  { r with buffers := r.buffers.setIfInBounds id contents, log := r.log.push call }

/-- with one more entry in the log -/
def noting (r : Recorder) (call : Call) : Recorder := { r with log := r.log.push call }

section

variable (r : Recorder) (kind : ElementKind) (shape : List Nat) (p : Payload) (id : Nat) (x : Option Payload) (c : Call)

@[simp] theorem failOn_adding : (r.adding kind shape p).failOn = r.failOn := rfl

@[simp] theorem failOn_setting : (r.setting id x c).failOn = r.failOn := rfl

@[simp] theorem failOn_noting : (r.noting c).failOn = r.failOn := rfl

@[simp] theorem size_adding : (r.adding kind shape p).buffers.size = r.buffers.size + 1 := Array.size_push ..

@[simp] theorem size_setting : (r.setting id x c).buffers.size = r.buffers.size := Array.size_setIfInBounds ..

@[simp] theorem size_noting : (r.noting c).buffers.size = r.buffers.size := rfl

@[simp] theorem log_adding :
    (r.adding kind shape p).log.toList = r.log.toList ++ [.allocate r.buffers.size kind shape] := Array.toList_push ..

@[simp] theorem log_setting : (r.setting id x c).log.toList = r.log.toList ++ [c] := Array.toList_push ..

@[simp] theorem log_noting : (r.noting c).log.toList = r.log.toList ++ [c] := Array.toList_push ..

theorem data?_adding (j : Nat) :
    (r.adding kind shape p).data? j = if j = r.buffers.size then some p else r.data? j := by
  unfold data? adding
  dsimp only
  rw [Array.getElem?_push]
  split <;> rfl

theorem data?_setting (j : Nat) :
    (r.setting id x c).data? j = if id = j ∧ j < r.buffers.size then x else r.data? j := by
  unfold data? setting
  dsimp only
  rw [Array.getElem?_setIfInBounds]
  by_cases hid : id = j
  · by_cases hj : j < r.buffers.size
    · simp [hid, hj]
    · simp [hid, hj]
  · simp [hid]

@[simp] theorem data?_noting (j : Nat) : (r.noting c).data? j = r.data? j := rfl

end

/-- contents of a live buffer after it got others -/
theorem data?_setting_of_some {r : Recorder} {id : Nat} {old : Payload} (h : r.data? id = some old)
    (x : Option Payload) (c : Call) (j : Nat) : (r.setting id x c).data? j = if id = j then x else r.data? j := by
  rw [data?_setting]
  by_cases hid : id = j
  · rw [if_pos ⟨hid, hid ▸ lt_size_of_data? h⟩, if_pos hid]
  · rw [if_neg fun h => hid h.1, if_neg hid]

/-! ## Failures -/

/-- whether a primitive is the one that always fails -/
def Refuses (r : Recorder) (p : Primitive) : Prop := r.failOn = some p.name

theorem Refuses.unique {r : Recorder} {p q : Primitive} (hp : r.Refuses p) (hq : r.Refuses q) : p = q :=
  Primitive.name_injective (Option.some.inj (hp.symm.trans hq))

theorem attempt_of_refuses {r : Recorder} {p : Primitive} (h : r.Refuses p) (act : EStateM Fault Recorder α) :
    attempt p act r = .error (.injected p) r := if_pos h

theorem attempt_of_not_refuses {r : Recorder} {p : Primitive} (h : ¬ r.Refuses p) (act : EStateM Fault Recorder α) :
    attempt p act r = act r := if_neg h

theorem inWords_apply (act : EStateM Fault Recorder α) (r : Recorder) :
    inWords act r = match act r with
      | .ok a r => .ok a r
      | .error f r => .error f.message r := by
  unfold inWords EStateM.adaptExcept
  cases act r <;> rfl

theorem reached_inWords (act : EStateM Fault Recorder α) (r : Recorder) :
    reached (inWords act r) = reached (act r) := by
  rw [inWords_apply]
  cases act r <;> rfl

theorem engine_allocate (kind : ElementKind) (shape : List Nat) :
    (Engine.allocate kind shape : EStateM String Recorder BufferRef) = inWords (allocate kind shape) := rfl

theorem engine_release (t : BufferRef) :
    (Engine.release t : EStateM String Recorder Unit) = inWords (release t) := rfl

theorem engine_fill (t : BufferRef) (p : Payload) :
    (Engine.fill t p : EStateM String Recorder Unit) = inWords (fill t p) := rfl

theorem engine_read (t : BufferRef) :
    (Engine.read t : EStateM String Recorder Payload) = inWords (read t) := rfl

theorem engine_copy (x y : BufferRef) :
    (Engine.copy x y : EStateM String Recorder Unit) = inWords (copy x y) := rfl

theorem engine_compute (k : Kernel BufferRef) :
    (Engine.compute k : EStateM String Recorder Unit) = inWords (compute k) := rfl

theorem allocate_refused {r : Recorder} (h : r.Refuses .allocate) (kind : ElementKind) (shape : List Nat) :
    allocate kind shape r = .error (.injected .allocate) r := attempt_of_refuses h _

theorem release_refused {r : Recorder} (h : r.Refuses .release) (t : BufferRef) :
    release t r = .error (.injected .release) r := attempt_of_refuses h _

theorem fill_refused {r : Recorder} (h : r.Refuses .fill) (t : BufferRef) (p : Payload) :
    fill t p r = .error (.injected .fill) r := attempt_of_refuses h _

theorem copy_refused {r : Recorder} (h : r.Refuses .copy) (x y : BufferRef) :
    copy x y r = .error (.injected .copy) r := attempt_of_refuses h _

/-- a kernel is checked as the primitive that it is -/
theorem checked_eq_primitive (k : Kernel BufferRef) : checked k = k.primitive := by
  cases k with
  | conv strategy => cases strategy <;> rfl
  | _ => rfl

theorem compute_eq_attempt (k : Kernel BufferRef) :
    compute k = attempt k.primitive fun r => .ok () (r.noting (.compute (k.map BufferRef.id))) := by
  rw [compute, checked_eq_primitive]
  rfl

theorem compute_refused {r : Recorder} {k : Kernel BufferRef} (h : r.Refuses k.primitive) :
    compute k r = .error (.injected k.primitive) r := by
  rw [compute_eq_attempt]
  exact attempt_of_refuses h _

/-- a primitive that leaves the recorder alone when it fails -/
def Atomic (act : EStateM Fault Recorder α) : Prop := ∀ r f r', act r = .error f r' → r' = r

theorem Atomic.attempt {p : Primitive} {act : EStateM Fault Recorder α} (h : Atomic act) : Atomic (attempt p act) := by
  intro r f r' hr
  by_cases hp : r.Refuses p
  · rw [attempt_of_refuses hp] at hr
    cases hr
    rfl
  · rw [attempt_of_not_refuses hp] at hr
    exact h r f r' hr

theorem atomic_allocate (kind : ElementKind) (shape : List Nat) : Atomic (allocate kind shape) := by
  refine Atomic.attempt fun r f r' h => ?_
  cases hz : Payload.zeros kind (volume shape) <;> simp_all

theorem atomic_release (t : BufferRef) : Atomic (release t) := by
  refine Atomic.attempt fun r f r' h => ?_
  cases ht : r.data? t.id <;> simp_all

theorem atomic_fill (t : BufferRef) (p : Payload) : Atomic (fill t p) := by
  refine Atomic.attempt fun r f r' h => ?_
  cases ht : r.data? t.id with
  | none => simp_all
  | some old => cases hp : fits old p <;> simp_all

theorem atomic_read (t : BufferRef) : Atomic (read t) := by
  refine Atomic.attempt fun r f r' h => ?_
  cases ht : r.data? t.id <;> simp_all

theorem atomic_copy (x y : BufferRef) : Atomic (copy x y) := by
  refine Atomic.attempt fun r f r' h => ?_
  cases hx : r.data? x.id with
  | none => simp_all
  | some source =>
    cases hy : r.data? y.id with
    | none => simp_all
    | some target => cases hp : fits source target <;> simp_all

theorem atomic_compute (k : Kernel BufferRef) : Atomic (compute k) :=
  Atomic.attempt fun _ _ _ h => nomatch h

theorem attempt_error {p : Primitive} {act : EStateM Fault Recorder α} {r r' : Recorder} {f : Fault}
    (h : attempt p act r = .error f r') : (r.Refuses p ∧ f = .injected p) ∨ act r = .error f r' := by
  by_cases hp : r.Refuses p
  · rw [attempt_of_refuses hp] at h
    cases h
    exact Or.inl ⟨hp, rfl⟩
  · exact Or.inr (by rwa [attempt_of_not_refuses hp] at h)

/-! ## Successes -/

theorem exists_zeros {kind : ElementKind} (h : kind.isConcrete) (volume : Nat) :
    ∃ zeros, Payload.zeros kind volume = some zeros ∧ zeros.kind = kind ∧ zeros.length = volume := by
  cases hz : Payload.zeros kind volume with
  | none =>
    rw [Payload.zeros_eq_none_iff.1 hz] at h
    cases h
  | some zeros => exact ⟨zeros, rfl, Payload.kind_of_zeros hz⟩

theorem allocate_apply {r : Recorder} {kind : ElementKind} {shape : List Nat} {zeros : Payload}
    (hr : ¬ r.Refuses .allocate) (hz : Payload.zeros kind (volume shape) = some zeros) :
    allocate kind shape r = .ok ⟨r.buffers.size, kind, shape⟩
      (r.adding kind shape zeros) := by
  refine (attempt_of_not_refuses hr _).trans ?_
  simp only [hz]
  rfl

/-- a kind that can be stored is allocated, unless allocating always fails -/
theorem allocate_cases {kind : ElementKind} (h : kind.isConcrete) (shape : List Nat) (r : Recorder) :
    (r.Refuses .allocate ∧ allocate kind shape r = .error (.injected .allocate) r) ∨
    (¬ r.Refuses .allocate ∧ ∃ zeros, allocate kind shape r =
      .ok ⟨r.buffers.size, kind, shape⟩ (r.adding kind shape zeros)) := by
  by_cases hr : r.Refuses .allocate
  · exact Or.inl ⟨hr, allocate_refused hr kind shape⟩
  · obtain ⟨zeros, hz, -⟩ := exists_zeros h (volume shape)
    exact Or.inr ⟨hr, zeros, allocate_apply hr hz⟩

theorem release_apply {r : Recorder} {t : BufferRef} {p : Payload} (hr : ¬ r.Refuses .release)
    (ht : r.data? t.id = some p) :
    release t r = .ok () (r.setting t.id none (.release t.id)) := by
  refine (attempt_of_not_refuses hr _).trans ?_
  simp only [ht]
  rfl

theorem fill_apply {r : Recorder} {t : BufferRef} {old : Payload} (hr : ¬ r.Refuses .fill)
    (ht : r.data? t.id = some old) (p : Payload) :
    fill t p r = if fits old p then
        .ok () (r.setting t.id (some p) (.fill t.id))
      else .error (.misfit t.id old.length old.kind p.length p.kind) r := by
  refine (attempt_of_not_refuses hr _).trans ?_
  simp only [ht]
  rfl

theorem read_apply {r : Recorder} {t : BufferRef} {p : Payload} (hr : ¬ r.Refuses .read)
    (ht : r.data? t.id = some p) : read t r = .ok p (r.noting (.read t.id)) := by
  refine (attempt_of_not_refuses hr _).trans ?_
  simp only [ht]
  rfl

theorem copy_apply {r : Recorder} {x y : BufferRef} {source target : Payload} (hr : ¬ r.Refuses .copy)
    (hx : r.data? x.id = some source) (hy : r.data? y.id = some target) :
    copy x y r = if fits source target then
        .ok () (r.setting y.id (some source) (.copy x.id y.id))
      else .error (.incompatible x.id y.id) r := by
  refine (attempt_of_not_refuses hr _).trans ?_
  simp only [hx, hy]
  rfl

theorem compute_apply {r : Recorder} {k : Kernel BufferRef} (hr : ¬ r.Refuses k.primitive) :
    compute k r = .ok () (r.noting (.compute (k.map BufferRef.id))) := by
  rw [compute_eq_attempt]
  exact attempt_of_not_refuses hr _

theorem attempt_ok {p : Primitive} {act : EStateM Fault Recorder α} {r r' : Recorder} {a : α}
    (h : attempt p act r = .ok a r') : ¬ r.Refuses p ∧ act r = .ok a r' := by
  by_cases hp : r.Refuses p
  · rw [attempt_of_refuses hp] at h
    cases h
  · exact ⟨hp, by rwa [attempt_of_not_refuses hp] at h⟩

theorem allocate_ok {kind : ElementKind} {shape : List Nat} {t : BufferRef} {r r' : Recorder}
    (h : allocate kind shape r = .ok t r') : ¬ r.Refuses .allocate ∧ t = ⟨r.buffers.size, kind, shape⟩ ∧
      ∃ zeros, zeros.kind = kind ∧ zeros.length = volume shape ∧
        r' = r.adding kind shape zeros := by
  obtain ⟨hr, h⟩ := attempt_ok h
  dsimp only at h
  cases hz : Payload.zeros kind (volume shape) with
  | none => rw [hz] at h; cases h
  | some zeros =>
    rw [hz] at h
    cases h
    exact ⟨hr, rfl, zeros, (Payload.kind_of_zeros hz).1, (Payload.kind_of_zeros hz).2, rfl⟩

theorem release_ok {t : BufferRef} {r r' : Recorder} (h : release t r = .ok () r') :
    ¬ r.Refuses .release ∧ (r.data? t.id).isSome ∧
      r' = r.setting t.id none (.release t.id) := by
  obtain ⟨hr, h⟩ := attempt_ok h
  cases ht : r.data? t.id with
  | none => rw [ht] at h; cases h
  | some p => rw [ht] at h; cases h; exact ⟨hr, rfl, rfl⟩

theorem fill_ok {t : BufferRef} {p : Payload} {r r' : Recorder} (h : fill t p r = .ok () r') :
    ¬ r.Refuses .fill ∧ ∃ old, r.data? t.id = some old ∧ fits old p = true ∧
      r' = r.setting t.id (some p) (.fill t.id) := by
  obtain ⟨hr, h⟩ := attempt_ok h
  cases ht : r.data? t.id with
  | none => rw [ht] at h; cases h
  | some old =>
    rw [ht] at h
    dsimp only at h
    cases hf : fits old p with
    | false => rw [hf] at h; cases h
    | true => rw [hf] at h; cases h; exact ⟨hr, old, rfl, hf, rfl⟩

theorem read_ok {t : BufferRef} {p : Payload} {r r' : Recorder} (h : read t r = .ok p r') :
    ¬ r.Refuses .read ∧ r.data? t.id = some p ∧ r' = r.noting (.read t.id) := by
  obtain ⟨hr, h⟩ := attempt_ok h
  cases ht : r.data? t.id with
  | none => rw [ht] at h; cases h
  | some p => rw [ht] at h; cases h; exact ⟨hr, rfl, rfl⟩

theorem copy_ok {x y : BufferRef} {r r' : Recorder} (h : copy x y r = .ok () r') :
    ¬ r.Refuses .copy ∧ ∃ source target, r.data? x.id = some source ∧ r.data? y.id = some target ∧
      fits source target = true ∧
      r' = r.setting y.id (some source) (.copy x.id y.id) := by
  obtain ⟨hr, h⟩ := attempt_ok h
  cases hx : r.data? x.id with
  | none => rw [hx] at h; cases h
  | some source =>
    cases hy : r.data? y.id with
    | none => rw [hx, hy] at h; cases h
    | some target =>
      rw [hx, hy] at h
      dsimp only at h
      cases hf : fits source target with
      | false => rw [hf] at h; cases h
      | true => rw [hf] at h; cases h; exact ⟨hr, source, target, rfl, rfl, hf, rfl⟩

theorem compute_ok {k : Kernel BufferRef} {r r' : Recorder} (h : compute k r = .ok () r') :
    ¬ r.Refuses k.primitive ∧ r' = r.noting (.compute (k.map BufferRef.id)) := by
  rw [compute_eq_attempt] at h
  obtain ⟨hr, h⟩ := attempt_ok h
  cases h
  exact ⟨hr, rfl⟩

theorem fits_iff {old new : Payload} : fits old new = true ↔ old.kind = new.kind ∧ old.length = new.length := by
  simp [fits]

theorem fits_symm {old new : Payload} (h : fits old new = true) : fits new old = true := by
  rw [fits_iff] at h ⊢
  exact ⟨h.1.symm, h.2.symm⟩

/-! ## Handles -/

/-- a live buffer holds what its handle shows -/
def Backs (r : Recorder) (t : BufferRef) : Prop :=
  ∃ p, r.data? t.id = some p ∧ p.kind = t.kind ∧ p.length = volume t.shape

section

variable {r : Recorder} {t : BufferRef}

theorem Backs.lt_size (h : r.Backs t) : t.id < r.buffers.size := by
  obtain ⟨p, hp, -⟩ := h
  exact lt_size_of_data? hp

/-- a new buffer is one of its own -/
theorem nodup_adding {held : List BufferRef} (hdistinct : (held.map BufferRef.id).Nodup) (h : ∀ t ∈ held, r.Backs t)
    (kind : ElementKind) (shape : List Nat) :
    ((⟨r.buffers.size, kind, shape⟩ :: held : List BufferRef).map BufferRef.id).Nodup := by
  refine List.nodup_cons.2 ⟨fun hmem => ?_, hdistinct⟩
  obtain ⟨t, ht, hid⟩ := List.mem_map.1 hmem
  exact absurd hid (Nat.ne_of_lt (h t ht).lt_size)

theorem backs_adding {held : List BufferRef} (h : ∀ t ∈ held, r.Backs t) {kind : ElementKind} {shape : List Nat}
    {p : Payload} (hkind : p.kind = kind) (hlength : p.length = volume shape) :
    ∀ t ∈ (⟨r.buffers.size, kind, shape⟩ :: held : List BufferRef), (r.adding kind shape p).Backs t := by
  intro t ht
  unfold Backs
  rw [data?_adding]
  rcases List.mem_cons.1 ht with rfl | ht
  · exact ⟨p, if_pos rfl, hkind, hlength⟩
  · rw [if_neg (Nat.ne_of_lt (h t ht).lt_size)]
    exact h t ht

variable {id : Nat} {old p : Payload} (hold : r.data? id = some old) (hfits : fits old p = true) (c : Call)

include hold

theorem isSome_data?_setting (j : Nat) : ((r.setting id (some p) c).data? j).isSome = (r.data? j).isSome := by
  rw [data?_setting_of_some hold]
  split_ifs with hj
  · rw [← hj, hold]
    rfl
  · rfl

include hfits

/-- contents that fit are of the same kind and size -/
theorem Backs.setting (h : r.Backs t) : (r.setting id (some p) c).Backs t := by
  obtain ⟨q, hq, hkind, hlength⟩ := h
  unfold Backs
  rw [data?_setting_of_some hold]
  split_ifs with hid
  · rw [← hid, hold] at hq
    cases hq
    obtain ⟨hk, hl⟩ := fits_iff.1 hfits
    exact ⟨p, rfl, hk.symm.trans hkind, hl.symm.trans hlength⟩
  · exact ⟨q, hq, hkind, hlength⟩

end

/-! ## Instructions -/

/-- when an instruction goes well -/
def Accepts (r : Recorder) : Instruction BufferRef → Prop
  | .idle => True
  | .fill t p => ¬ r.Refuses .fill ∧ ∃ old, r.data? t.id = some old ∧ fits old p = true
  | .copy x y => ¬ r.Refuses .copy ∧
    ∃ source target, r.data? x.id = some source ∧ r.data? y.id = some target ∧ fits source target = true
  | .compute _ k => ¬ r.Refuses k.primitive

/-- why an instruction does not go well -/
inductive Blocks (r : Recorder) : Instruction BufferRef → Primitive → Fault → Prop
  | injected {i : Instruction BufferRef} {p : Primitive} (h : r.Refuses p) : Blocks r i p (.injected p)
  | notLive {i : Instruction BufferRef} {p : Primitive} {t : BufferRef} (ht : t ∈ i.handles)
    (h : r.data? t.id = none) : Blocks r i p (.notLive t.id)
  | misfit {t : BufferRef} {p old : Payload} (hold : r.data? t.id = some old) (h : fits old p = false) :
    Blocks r (.fill t p) .fill (.misfit t.id old.length old.kind p.length p.kind)
  | incompatible {x y : BufferRef} {source target : Payload} (hx : r.data? x.id = some source)
    (hy : r.data? y.id = some target) (h : fits source target = false) :
    Blocks r (.copy x y) .copy (.incompatible x.id y.id)

/-- a recorder after an instruction that went well -/
def following (r : Recorder) : Instruction BufferRef → Recorder
  | .idle => r
  | .fill t p => r.setting t.id (some p) (.fill t.id)
  | .copy x y => r.setting y.id (r.data? x.id) (.copy x.id y.id)
  | .compute _ k => r.noting (.compute (k.map BufferRef.id))

end Recorder

/-- what an instruction leaves in the log when it goes well -/
def Instruction.calls : Instruction BufferRef → List Call
  | .idle => []
  | .fill t _ => [.fill t.id]
  | .copy x y => [.copy x.id y.id]
  | .compute _ k => [.compute (k.map BufferRef.id)]

namespace Recorder

@[simp] theorem failOn_following (r : Recorder) (i : Instruction BufferRef) : (r.following i).failOn = r.failOn := by
  cases i <;> rfl

theorem log_following (r : Recorder) (i : Instruction BufferRef) :
    (r.following i).log.toList = r.log.toList ++ i.calls := by
  cases i <;> simp [following, Instruction.calls]

/-- an instruction that goes well has no effect on which buffers are live -/
theorem isSome_data?_following {r : Recorder} {i : Instruction BufferRef} (h : r.Accepts i) (j : Nat) :
    ((r.following i).data? j).isSome = (r.data? j).isSome := by
  cases i with
  | idle => rfl
  | fill t p =>
    obtain ⟨-, old, hold, -⟩ := h
    rw [following, data?_setting_of_some hold]
    split_ifs with hj
    · rw [← hj, hold]
      rfl
    · rfl
  | copy x y =>
    obtain ⟨-, source, target, hx, hy, -⟩ := h
    rw [following, data?_setting_of_some hy]
    split_ifs with hj
    · rw [← hj, hx, hy]
      rfl
    · rfl
  | compute name k => rfl

theorem blocks_fill {t : BufferRef} {p : Payload} {f : Fault} {r r' : Recorder} (h : fill t p r = .error f r') :
    r.Blocks (.fill t p) .fill f := by
  rcases attempt_error h with ⟨hr, rfl⟩ | h
  · exact .injected hr
  · cases ht : r.data? t.id with
    | none => rw [ht] at h; cases h; exact .notLive List.mem_cons_self ht
    | some old =>
      rw [ht] at h
      dsimp only at h
      cases hf : fits old p with
      | false => rw [hf] at h; cases h; exact .misfit ht hf
      | true => rw [hf] at h; cases h

theorem blocks_copy {x y : BufferRef} {f : Fault} {r r' : Recorder} (h : copy x y r = .error f r') :
    r.Blocks (.copy x y) .copy f := by
  rcases attempt_error h with ⟨hr, rfl⟩ | h
  · exact .injected hr
  · cases hx : r.data? x.id with
    | none => rw [hx] at h; cases h; exact .notLive List.mem_cons_self hx
    | some source =>
      cases hy : r.data? y.id with
      | none => rw [hx, hy] at h; cases h; exact .notLive (by simp [Instruction.handles]) hy
      | some target =>
        rw [hx, hy] at h
        dsimp only at h
        cases hf : fits source target with
        | false => rw [hf] at h; cases h; exact .incompatible hx hy hf
        | true => rw [hf] at h; cases h

theorem blocks_compute {k : Kernel BufferRef} {f : Fault} {r r' : Recorder} (h : compute k r = .error f r') :
    r.Blocks (.compute k.primitive k) k.primitive f := by
  rw [compute_eq_attempt] at h
  rcases attempt_error h with ⟨hr, rfl⟩ | h
  · exact .injected hr
  · cases h

end Recorder

/-- a request that goes well on the recorder goes well in the session -/
theorem Session.invoke_inWords_ok {p : Primitive} {act : EStateM Fault Recorder Unit}
    {s : Session Recorder BufferRef} {r : Recorder} (h : act s.engine = .ok () r) :
    invoke p (Recorder.inWords act) s = .ok () { s with engine := r, requests := s.requests + 1 } := by
  unfold invoke
  rw [Recorder.inWords_apply, h]

/-- a request that fails on the recorder fails in the session and leaves the recorder as it was -/
theorem Session.invoke_inWords_error {p : Primitive} {act : EStateM Fault Recorder Unit}
    {s : Session Recorder BufferRef} {f : Fault} {r : Recorder} (ha : Recorder.Atomic act)
    (h : act s.engine = .error f r) :
    invoke p (Recorder.inWords act) s = .error (.engine p f.message) { s with requests := s.requests + 1 } := by
  unfold invoke
  rw [Recorder.inWords_apply, h, ha _ _ _ h]

/-- an instruction goes well if the recorder accepts it; otherwise the request is counted and nothing else happens -/
theorem Session.issue_cases {i : Instruction BufferRef} (hi : i.IsNamed) (s : Session Recorder BufferRef) :
    (s.engine.Accepts i ∧ issue i s = .ok () { s with
      engine := s.engine.following i, requests := s.requests + i.calls.length }) ∨
    (¬ s.engine.Accepts i ∧ ∃ p f, s.engine.Blocks i p f ∧
      issue i s = .error (.engine p f.message) { s with requests := s.requests + 1 }) := by
  cases i with
  | idle => exact Or.inl ⟨trivial, rfl⟩
  | fill t p =>
    rw [issue, Recorder.engine_fill]
    cases h : Recorder.fill t p s.engine with
    | ok u r =>
      obtain ⟨hr, old, hold, hfits, rfl⟩ := Recorder.fill_ok h
      exact Or.inl ⟨⟨hr, old, hold, hfits⟩, invoke_inWords_ok h⟩
    | error f r =>
      refine Or.inr ⟨?_, .fill, f, Recorder.blocks_fill h, invoke_inWords_error (Recorder.atomic_fill t p) h⟩
      rintro ⟨hr, old, hold, hfits⟩
      rw [Recorder.fill_apply hr hold, if_pos hfits] at h
      cases h
  | copy x y =>
    rw [issue, Recorder.engine_copy]
    cases h : Recorder.copy x y s.engine with
    | ok u r =>
      obtain ⟨hr, source, target, hx, hy, hfits, rfl⟩ := Recorder.copy_ok h
      refine Or.inl ⟨⟨hr, source, target, hx, hy, hfits⟩, ?_⟩
      rw [invoke_inWords_ok h, Recorder.following, hx]
      rfl
    | error f r =>
      refine Or.inr ⟨?_, .copy, f, Recorder.blocks_copy h, invoke_inWords_error (Recorder.atomic_copy x y) h⟩
      rintro ⟨hr, source, target, hx, hy, hfits⟩
      rw [Recorder.copy_apply hr hx hy, if_pos hfits] at h
      cases h
  | compute name k =>
    obtain rfl : name = k.primitive := hi
    rw [issue, Recorder.engine_compute]
    cases h : Recorder.compute k s.engine with
    | ok u r =>
      obtain ⟨hr, rfl⟩ := Recorder.compute_ok h
      exact Or.inl ⟨hr, invoke_inWords_ok h⟩
    | error f r =>
      refine Or.inr ⟨fun hr => ?_, k.primitive, f, Recorder.blocks_compute h,
        invoke_inWords_error (Recorder.atomic_compute k) h⟩
      rw [Recorder.compute_apply hr] at h
      cases h

end TensorGraph
