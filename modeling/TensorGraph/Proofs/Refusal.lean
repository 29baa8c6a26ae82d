/-
What becomes of the tensors in an engine that refuses a primitive.

Model: a refusing engine passes on to its inner engine what it does not refuse, but never a release. Around a recorder
it therefore hoards (`Hoards`): all buffers stay live, whatever is refused and whatever fails by itself. It counts what
it is asked for, and logs at most one request each time; what it refuses is not logged (`Counts`).

Main result: `hoards_after`, so it is after every history of a session.
-/
import TensorGraph.Engine.Refusing
import TensorGraph.Proofs.Custody
import TensorGraph.Proofs.Recording

namespace TensorGraph

/-! ## Model -/

/-- a recorder of which nothing was released, and the handles that somebody holds: they are different, and what they
show is what is stored -/
structure Recorder.Hoards (held : List BufferRef) (r : Recorder) : Prop where
  distinct : (held.map BufferRef.id).Nodup
  held : ∀ t ∈ held, r.Backs t
  live : ∀ id < r.buffers.size, (r.data? id).isSome
  unreleased : ∀ id, .release id ∉ r.log.toList

/-- how many requests were refused, if the one with number `refuseAt` is and `count` were made -/
def Refusing.refusals (refuseAt count : Nat) : Nat := if 1 ≤ refuseAt ∧ refuseAt ≤ count then 1 else 0

/-- a refusing engine that logged at most as much as was asked for and not refused -/
structure Refusing.Counts (refuseAt : Nat) (e : Refusing Recorder) : Prop where
  refuseAt_eq : e.refuseAt = refuseAt
  logged : e.inner.log.toList.length + refusals refuseAt e.count ≤ e.count

/-! ## Recorders that hoard -/

namespace Recorder.Hoards

variable {held : List BufferRef} {r : Recorder}

theorem of_perm {held' : List BufferRef} (hperm : held.Perm held') (h : Hoards held r) : Hoards held' r where
  distinct := (hperm.map _).nodup_iff.1 h.distinct
  held t ht := h.held t (hperm.mem_iff.2 ht)
  live := h.live
  unreleased := h.unreleased

/-- handles may be forgotten -/
theorem tail {t : BufferRef} (h : Hoards (t :: held) r) : Hoards held r where
  distinct := (List.nodup_cons.1 h.distinct).2
  held u hu := h.held u (List.mem_cons_of_mem _ hu)
  live := h.live
  unreleased := h.unreleased

theorem unreleased_snoc (h : Hoards held r) {c : Call} (hc : ∀ id, c ≠ .release id) (id : Nat) :
    .release id ∉ r.log.toList ++ [c] := by
  intro hmem
  rcases List.mem_append.1 hmem with hmem | hmem
  · exact h.unreleased id hmem
  · exact hc id (List.mem_singleton.1 hmem).symm

theorem noting (h : Hoards held r) {c : Call} (hc : ∀ id, c ≠ .release id) : Hoards held (r.noting c) where
  distinct := h.distinct
  held := h.held
  live := h.live
  unreleased := by
    rw [log_noting]
    exact h.unreleased_snoc hc

theorem setting (h : Hoards held r) {id : Nat} {old p : Payload} (hold : r.data? id = some old)
    (hfits : fits old p = true) {c : Call} (hc : ∀ id, c ≠ .release id) : Hoards held (r.setting id (some p) c) where
  distinct := h.distinct
  held t ht := Backs.setting hold hfits c (h.held t ht)
  live j hj := by
    rw [isSome_data?_setting hold]
    exact h.live j (size_setting .. ▸ hj)
  unreleased := by
    rw [log_setting]
    exact h.unreleased_snoc hc

theorem adding (h : Hoards held r) {kind : ElementKind} {shape : List Nat} {p : Payload} (hkind : p.kind = kind)
    (hlength : p.length = volume shape) :
    Hoards (⟨r.buffers.size, kind, shape⟩ :: held) (r.adding kind shape p) := by
  refine ⟨nodup_adding h.distinct h.held kind shape, backs_adding h.held hkind hlength, fun j hj => ?_, ?_⟩
  · rw [size_adding] at hj
    rw [data?_adding]
    split_ifs with hid
    · rfl
    · exact h.live j (Nat.lt_of_le_of_ne (Nat.le_of_lt_succ hj) hid)
  · rw [log_adding]
    exact h.unreleased_snoc nofun

end Recorder.Hoards

/-! ## Passing on -/

namespace Refusing

variable {α : Type} {n : Nat} {e : Refusing Recorder} {p : Primitive} {act : EStateM Fault Recorder α}

theorem refusals_succ (n count : Nat) : refusals n (count + 1) = if count + 1 = n then 1 else refusals n count := by
  unfold refusals
  split_ifs <;> omega

/-- one more request is counted, and either refused or passed on -/
theorem pass_cases (p : Primitive) (act : EStateM Fault Recorder α) (e : Refusing Recorder) :
    (e.count + 1 = e.refuseAt ∧
      ∃ why, pass p (Recorder.inWords act) e = .error why { e with count := e.count + 1 }) ∨
    (e.count + 1 ≠ e.refuseAt ∧ pass p (Recorder.inWords act) e = match act e.inner with
      | .ok a r => .ok a { e with inner := r, count := e.count + 1 }
      | .error f r => .error f.message { e with inner := r, count := e.count + 1 }) := by
  by_cases h : e.count + 1 = e.refuseAt
  · exact Or.inl ⟨h, _, if_pos h⟩
  · refine Or.inr ⟨h, (if_neg h).trans ?_⟩
    rw [Recorder.inWords_apply]
    cases act e.inner <;> rfl

/-- what is refused is counted, but not logged -/
theorem Counts.refused (h : Counts n e) (hn : e.count + 1 = e.refuseAt) :
    Counts n { e with count := e.count + 1 } := by
  refine ⟨h.refuseAt_eq, ?_⟩
  have hlogged := h.logged
  rw [h.refuseAt_eq] at hn
  have hbefore : refusals n e.count = 0 := if_neg fun hle => by omega
  change e.inner.log.toList.length + refusals n (e.count + 1) ≤ e.count + 1
  rw [refusals_succ, if_pos hn]
  omega

/-- what is passed on is counted, and logs one request at most -/
theorem Counts.passed (h : Counts n e) (hn : e.count + 1 ≠ e.refuseAt) {r : Recorder}
    (hlog : r.log.toList.length ≤ e.inner.log.toList.length + 1) :
    Counts n { e with inner := r, count := e.count + 1 } := by
  refine ⟨h.refuseAt_eq, ?_⟩
  have hlogged := h.logged
  rw [h.refuseAt_eq] at hn
  change r.log.toList.length + refusals n (e.count + 1) ≤ e.count + 1
  rw [refusals_succ, if_neg hn]
  omega

/-- a primitive that hands out nothing leaves what is held as it is -/
theorem kept_pass {held : List BufferRef} (hcounts : Counts n e) (h : e.inner.Hoards held)
    (hatomic : Recorder.Atomic act)
    (hok : ∀ a r, act e.inner = .ok a r → r.Hoards held ∧ r.log.toList.length = e.inner.log.toList.length + 1) :
    Counts n (reached (pass p (Recorder.inWords act) e)) ∧
      (reached (pass p (Recorder.inWords act) e)).inner.Hoards held := by
  rcases pass_cases p act e with ⟨hn, why, hpass⟩ | ⟨hn, hpass⟩ <;> rw [hpass]
  · exact ⟨hcounts.refused hn, h⟩
  · cases hact : act e.inner with
    | ok a r =>
      obtain ⟨hhoards, hlog⟩ := hok a r hact
      exact ⟨hcounts.passed hn (Nat.le_of_eq hlog), hhoards⟩
    | error f r =>
      obtain rfl := hatomic e.inner f r hact
      exact ⟨hcounts.passed hn (Nat.le_succ _), h⟩

/-- a buffer that is handed out is held from then on -/
theorem kept_allocate {held : List BufferRef} (hcounts : Counts n e) (h : e.inner.Hoards held) (kind : ElementKind)
    (shape : List Nat) :
    let result := pass .allocate (Recorder.inWords (Recorder.allocate kind shape)) e
    Counts n (reached result) ∧ (reached result).inner.Hoards (granted result ++ held) := by
  intro result
  rcases pass_cases .allocate (Recorder.allocate kind shape) e with ⟨hn, why, hpass⟩ | ⟨hn, hpass⟩ <;>
    rw [show result = _ from hpass]
  · exact ⟨hcounts.refused hn, h⟩
  · cases hact : Recorder.allocate kind shape e.inner with
    | ok t r =>
      obtain ⟨-, rfl, zeros, hkind, hlength, rfl⟩ := Recorder.allocate_ok hact
      exact ⟨hcounts.passed hn (by simp), h.adding hkind hlength⟩
    | error f r =>
      obtain rfl := Recorder.atomic_allocate kind shape e.inner f r hact
      exact ⟨hcounts.passed hn (Nat.le_succ _), h⟩

/-! ## Every history -/

/-- what a refusing engine keeps true -/
def hoarding (n : Nat) : Custody (Refusing Recorder) BufferRef where
  Holds held e := Counts n e ∧ e.inner.Hoards held
  of_perm hperm h := ⟨h.1, h.2.of_perm hperm⟩
  allocate kind shape h := kept_allocate h.1 h.2 kind shape
  release _ h := ⟨h.1, h.2.tail⟩
  fill {held e t} p _ h := by
    refine kept_pass h.1 h.2 (Recorder.atomic_fill t p) fun _ r hr => ?_
    obtain ⟨-, old, hold, hfits, rfl⟩ := Recorder.fill_ok hr
    exact ⟨h.2.setting hold hfits nofun, by simp⟩
  read {held e t} _ h := by
    refine kept_pass h.1 h.2 (Recorder.atomic_read t) fun _ r hr => ?_
    obtain ⟨-, -, rfl⟩ := Recorder.read_ok hr
    exact ⟨h.2.noting nofun, by simp⟩
  copy {held e x y} _ _ h := by
    refine kept_pass h.1 h.2 (Recorder.atomic_copy x y) fun _ r hr => ?_
    obtain ⟨-, source, target, -, htarget, hfits, rfl⟩ := Recorder.copy_ok hr
    exact ⟨h.2.setting htarget (Recorder.fits_symm hfits) nofun, by simp⟩
  compute {held e k} _ h := by
    refine kept_pass h.1 h.2 (Recorder.atomic_compute k) fun _ r hr => ?_
    obtain ⟨-, rfl⟩ := Recorder.compute_ok hr
    exact ⟨h.2.noting nofun, by simp⟩

/-- **Refusing loses nothing.** Take any session on an engine that refuses the request with number `n`, around a fresh
recorder on which any primitive may always fail. After every history, faults included, nothing was released and every
buffer is live, so that what is bound is stored with the kind and the size of its declaration, each name in a buffer of
its own. The log has at most one entry for each request that was counted and not refused. -/
theorem hoards_after (n : Nat) (failOn : Option String) (history : List Step) :
    let s := (Session.start (⟨⟨#[], #[], failOn⟩, 0, n⟩ : Refusing Recorder)).after history
    let r := s.engine.inner
    (∀ id, .release id ∉ r.log.toList) ∧ (∀ id < r.buffers.size, (r.data? id).isSome) ∧
      (∀ name t, s.bindings.find? name = some t → r.Backs t) ∧
      (s.bindings.values.map BufferRef.id).Nodup ∧
      r.log.toList.length + refusals n s.engine.count ≤ s.engine.count := by
  intro s r
  have hstart : (hoarding n).Holds [] ⟨⟨#[], #[], failOn⟩, 0, n⟩ :=
    ⟨⟨rfl, by simp [refusals]; omega⟩, List.nodup_nil, nofun, nofun, nofun⟩
  obtain ⟨⟨hcounts, hhoards⟩, -⟩ := Session.after_atRest (hoarding n) hstart history
  refine ⟨hhoards.unreleased, hhoards.live, fun name t ht => ?_, ?_, hcounts.logged⟩
  · exact hhoards.held t (List.mem_append_left _ (NameMap.mem_values_of_find? ht))
  · exact hhoards.distinct.sublist ((List.sublist_append_left _ _).map _)

end Refusing

end TensorGraph
