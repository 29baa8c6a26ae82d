/-
The log of a recorder tells its buffers.

Model: several recorders stand side by side, each with the calls that were drained from its log (`Archive`). They are
asked for anything, on any handles, and their logs are drained at any time. `Replays` says what the calls of an archive
tell about the buffers: which of them are live, and of what kind and length they are.

Main result: `calls_replay`.
-/
import TensorGraph.Proofs.Primitives

namespace TensorGraph

/-! ## Model -/

/-- the buffer that a call releases -/
def Call.released? : Call → Option Nat
  | .release id => some id
  | _ => none

/-- the buffers that a call reads, changes or gives up; what kernels do is left open -/
def Call.touched : Call → List Nat
  | .release id => [id]
  | .fill id => [id]
  | .read id => [id]
  | .copy x y => [x, y]
  | .allocate .. | .compute _ => []

/-- one thing that is done to a recorder -/
inductive Access
  | request (q : Request BufferRef)
  /-- hand out the log, and go on with an empty one -/
  | drain

/-- a recorder, and the calls that were drained from it so far -/
structure Archive where
  recorder : Recorder
  drained : List Call

namespace Archive

/-- every call of the recorder, drained or still in its log -/
def calls (a : Archive) : List Call := a.drained ++ a.recorder.log.toList

/-- a recorder before anything was asked of it -/
def fresh (failOn : Option String) : Archive := ⟨⟨#[], #[], failOn⟩, []⟩

/-- the archive that an access leaves, whether or not it went well -/
def next (a : Archive) : Access → Archive
  | .request q => { a with recorder := reached (q.serve a.recorder) }
  | .drain => ⟨a.recorder.drain.2, a.drained ++ a.recorder.drain.1⟩

variable {ι : Type} [DecidableEq ι]

/-- archives side by side after an access to one of them -/
def step (archives : ι → Archive) (e : ι × Access) : ι → Archive :=
  Function.update archives e.1 ((archives e.1).next e.2)

/-- archives side by side after a history of accesses -/
def after (archives : ι → Archive) (history : List (ι × Access)) : ι → Archive := history.foldl step archives

end Archive

/-- what the calls of a recorder tell about its buffers -/
structure Replays (calls : List Call) (r : Recorder) : Prop where
  /-- numbers are given out in order, and never again -/
  numbers : calls.filterMap Call.allocated? = List.range r.buffers.size
  once : (calls.filterMap Call.released?).Nodup
  touched : ∀ earlier c later, calls = earlier ++ c :: later → ∀ id ∈ c.touched, LiveIn earlier id
  live : ∀ id, (r.data? id).isSome ↔ LiveIn calls id
  faithful : ∀ id p kind shape, r.data? id = some p → .allocate id kind shape ∈ calls →
    p.kind = kind ∧ p.length = volume shape

/-! ## One more call -/

section

variable {log : List Call} {id : Nat}

theorem liveIn_snoc_of_other {c : Call} (ha : c.allocated? = none) (hr : c.released? = none) :
    LiveIn (log ++ [c]) id ↔ LiveIn log id := by
  unfold LiveIn
  have hallocate : ∀ kind shape, .allocate id kind shape ∈ log ++ [c] ↔ .allocate id kind shape ∈ log := by
    intro kind shape
    rw [List.mem_append, List.mem_singleton, or_iff_left]
    rintro rfl
    cases ha
  have hrelease : .release id ∈ log ++ [c] ↔ .release id ∈ log := by
    rw [List.mem_append, List.mem_singleton, or_iff_left]
    rintro rfl
    cases hr
  simp only [hallocate, hrelease]

theorem liveIn_snoc_release {id' : Nat} : LiveIn (log ++ [.release id']) id ↔ LiveIn log id ∧ id ≠ id' := by
  unfold LiveIn
  simp only [List.mem_append, List.mem_singleton, reduceCtorEq, or_false, Call.release.injEq, not_or, and_assoc, ne_eq]

theorem liveIn_snoc_allocate {id' : Nat} (h : .release id' ∉ log) (kind : ElementKind) (shape : List Nat) :
    LiveIn (log ++ [.allocate id' kind shape]) id ↔ id = id' ∨ LiveIn log id := by
  constructor
  · rintro ⟨⟨kind', shape', ha⟩, hr⟩
    rcases List.mem_append.1 ha with ha | ha
    · exact Or.inr ⟨⟨kind', shape', ha⟩, fun hmem => hr (List.mem_append_left _ hmem)⟩
    · exact Or.inl (Call.allocate.inj (List.mem_singleton.1 ha)).1
  · rintro (rfl | hlive)
    · refine ⟨⟨kind, shape, List.mem_append_right _ List.mem_cons_self⟩, fun hmem => ?_⟩
      rcases List.mem_append.1 hmem with hmem | hmem
      · exact h hmem
      · cases List.mem_singleton.1 hmem
    · exact liveIn_snoc hlive nofun

end

namespace Replays

variable {calls : List Call} {r r' : Recorder}

/-- a log with one more call still only touches buffers that are live at the time -/
theorem touched_snoc (h : Replays calls r) {c : Call} (hc : ∀ id ∈ c.touched, (r.data? id).isSome) :
    ∀ earlier c' later, calls ++ [c] = earlier ++ c' :: later → ∀ id ∈ c'.touched, LiveIn earlier id := by
  intro earlier c' later heq
  rcases append_cons_of_snoc heq with ⟨rfl, rfl⟩ | ⟨later', heq⟩
  · exact fun id hid => (h.live id).1 (hc id hid)
  · exact h.touched earlier c' later' heq

theorem lt_size (h : Replays calls r) {id : Nat} {kind : ElementKind} {shape : List Nat}
    (hmem : .allocate id kind shape ∈ calls) : id < r.buffers.size := by
  have hid : id ∈ calls.filterMap Call.allocated? := List.mem_filterMap.2 ⟨_, hmem, rfl⟩
  rw [h.numbers] at hid
  exact List.mem_range.1 hid

/-- a number that is still to be given out was not released -/
theorem not_released (h : Replays calls r) : .release r.buffers.size ∉ calls := by
  intro hmem
  obtain ⟨earlier, later, heq⟩ := List.append_of_mem hmem
  obtain ⟨⟨kind, shape, ha⟩, -⟩ := h.touched earlier _ later heq _ List.mem_cons_self
  exact Nat.lt_irrefl _ (h.lt_size (heq ▸ List.mem_append_left _ ha))

/-- a new buffer -/
theorem adding (h : Replays calls r) {kind : ElementKind} {shape : List Nat} {p : Payload} (hkind : p.kind = kind)
    (hlen : p.length = volume shape) :
    Replays (calls ++ [.allocate r.buffers.size kind shape]) (r.adding kind shape p) where
  numbers := by
    rw [Recorder.size_adding, List.filterMap_append, h.numbers, List.range_succ]
    rfl
  once := by
    rw [List.filterMap_append]
    exact (List.append_nil _).symm ▸ h.once
  touched := h.touched_snoc nofun
  live id := by
    rw [liveIn_snoc_allocate h.not_released, ← h.live id, Recorder.data?_adding]
    split_ifs with hid
    · exact iff_of_true rfl (Or.inl hid)
    · exact (or_iff_right hid).symm
  faithful id q kind' shape' hq hmem := by
    rw [Recorder.data?_adding] at hq
    rcases List.mem_append.1 hmem with hmem | hmem
    · rw [if_neg (Nat.ne_of_lt (h.lt_size hmem))] at hq
      exact h.faithful id q kind' shape' hq hmem
    · obtain ⟨rfl, rfl, rfl⟩ := Call.allocate.inj (List.mem_singleton.1 hmem)
      rw [if_pos rfl] at hq
      cases hq
      exact ⟨hkind, hlen⟩

/-- a live buffer that is given up -/
theorem releasing (h : Replays calls r) {id : Nat} {p : Payload} (hp : r.data? id = some p) :
    Replays (calls ++ [.release id]) (r.setting id none (.release id)) where
  numbers := by
    rw [Recorder.size_setting, List.filterMap_append, h.numbers]
    exact List.append_nil _
  once := by
    have hnew : id ∉ calls.filterMap Call.released? := by
      rw [List.mem_filterMap]
      rintro ⟨c, hc, hid⟩
      cases c <;> cases hid
      exact ((h.live id).1 (by rw [hp]; rfl)).2 hc
    rw [List.filterMap_append]
    exact List.nodup_append.2 ⟨h.once, List.nodup_singleton id, fun i hi j hj => by
      rw [List.mem_singleton.1 hj]
      exact fun heq => hnew (heq ▸ hi)⟩
  touched := h.touched_snoc fun id' hid => by
    rw [List.mem_singleton.1 hid, hp]
    rfl
  live id' := by
    rw [liveIn_snoc_release, ← h.live id', Recorder.data?_setting_of_some hp]
    split_ifs with hid
    · exact iff_of_false nofun fun hlive => hlive.2 hid.symm
    · exact (and_iff_left (Ne.symm hid)).symm
  faithful id' q kind shape hq hmem := by
    rw [Recorder.data?_setting_of_some hp] at hq
    split_ifs at hq
    rcases List.mem_append.1 hmem with hmem | hmem
    · exact h.faithful id' q kind shape hq hmem
    · cases List.mem_singleton.1 hmem

/-- a call that gives out and gives up no buffer, and leaves every live buffer one of the same kind and length -/
theorem keeping (h : Replays calls r) {c : Call} (ha : c.allocated? = none) (hr : c.released? = none)
    (hc : ∀ id ∈ c.touched, (r.data? id).isSome) (hsize : r'.buffers.size = r.buffers.size)
    (hlive : ∀ id, (r'.data? id).isSome = (r.data? id).isSome)
    (hsame : ∀ id p', r'.data? id = some p' → ∃ p, r.data? id = some p ∧ p.kind = p'.kind ∧ p.length = p'.length) :
    Replays (calls ++ [c]) r' where
  numbers := by
    rw [hsize, List.filterMap_append, h.numbers, List.filterMap_cons_none ha]
    exact List.append_nil _
  once := by
    rw [List.filterMap_append, List.filterMap_cons_none hr]
    exact (List.append_nil _).symm ▸ h.once
  touched := h.touched_snoc hc
  live id := by rw [liveIn_snoc_of_other ha hr, hlive, h.live id]
  faithful id q kind shape hq hmem := by
    obtain ⟨p, hp, hkind, hlen⟩ := hsame id q hq
    rcases List.mem_append.1 hmem with hmem | hmem
    · obtain ⟨hk, hl⟩ := h.faithful id p kind shape hp hmem
      exact ⟨hkind.symm.trans hk, hlen.symm.trans hl⟩
    · cases List.mem_singleton.1 hmem
      cases ha

/-- new contents of the same kind and length in a live buffer -/
theorem setting (h : Replays calls r) {id : Nat} {old p : Payload} (hold : r.data? id = some old)
    (hfits : old.kind = p.kind ∧ old.length = p.length) {c : Call} (ha : c.allocated? = none) (hr : c.released? = none)
    (hc : ∀ id ∈ c.touched, (r.data? id).isSome) : Replays (calls ++ [c]) (r.setting id (some p) c) := by
  refine h.keeping ha hr hc (Recorder.size_setting ..) (fun id' => ?_) fun id' p' hp' => ?_
  · rw [Recorder.data?_setting_of_some hold]
    split_ifs with hid
    · rw [← hid, hold]
      rfl
    · rfl
  · rw [Recorder.data?_setting_of_some hold] at hp'
    split_ifs at hp' with hid
    · cases hp'
      exact ⟨old, hid ▸ hold, hfits⟩
    · exact ⟨p', hp', rfl, rfl⟩

/-- a request that is only noted -/
theorem noting (h : Replays calls r) {c : Call} (ha : c.allocated? = none) (hr : c.released? = none)
    (hc : ∀ id ∈ c.touched, (r.data? id).isSome) : Replays (calls ++ [c]) (r.noting c) :=
  h.keeping ha hr hc rfl (fun _ => rfl) fun _ p' hp' => ⟨p', hp', rfl, rfl⟩

/-! ## One more access -/

/-- a request that goes well is told by its call -/
theorem served (h : Replays calls r) {q : Request BufferRef} {reply : Reply BufferRef} (hq : r.Served q reply r') :
    Replays (calls ++ [q.call r]) r' := by
  cases hq with
  | allocate hzeros =>
    obtain ⟨hkind, hlen⟩ := Payload.kind_of_zeros hzeros
    exact h.adding hkind hlen
  | release hlive => exact h.releasing hlive
  | fill hlive hfits =>
    refine h.setting hlive (Recorder.fits_iff.1 hfits) rfl rfl fun id hid => ?_
    rw [List.mem_singleton.1 hid, hlive]
    rfl
  | read hlive =>
    refine h.noting rfl rfl fun id hid => ?_
    rw [List.mem_singleton.1 hid, hlive]
    rfl
  | copy hsource htarget hfits =>
    obtain ⟨hkind, hlen⟩ := Recorder.fits_iff.1 hfits
    refine h.setting htarget ⟨hkind.symm, hlen.symm⟩ rfl rfl fun id hid => ?_
    rcases List.mem_pair.1 hid with rfl | rfl
    · rw [hsource]
      rfl
    · rw [htarget]
      rfl
  | compute => exact h.noting rfl rfl nofun

theorem fresh (failOn : Option String) : Replays (Archive.fresh failOn).calls (Archive.fresh failOn).recorder where
  numbers := rfl
  once := List.nodup_nil
  touched earlier c later heq := by simp [Archive.fresh, Archive.calls] at heq
  live id := iff_of_false (by simp [Recorder.data?, Archive.fresh]) (by simp [LiveIn, Archive.fresh, Archive.calls])
  faithful id p kind shape _ hmem := nomatch hmem

/-- every access is told by the calls: a request that fails leaves no trace, and draining only moves calls -/
theorem next {a : Archive} (h : Replays a.calls a.recorder) (access : Access) :
    Replays (a.next access).calls (a.next access).recorder := by
  cases access with
  | request q =>
    have hnext : a.next (.request q) = ⟨reached (q.serve a.recorder), a.drained⟩ := rfl
    cases hserve : q.serve a.recorder with
    | error why r =>
      obtain ⟨rfl, -⟩ := Recorder.serve_error hserve
      rw [hnext, hserve]
      exact h
    | ok reply r =>
      have hserved := Recorder.serve_ok hserve
      have hcalls : (⟨r, a.drained⟩ : Archive).calls = a.calls ++ [q.call a.recorder] := by
        rw [Archive.calls, hserved.leaves.2.1, Array.toList_push, ← List.append_assoc]
        rfl
      rw [hnext, hserve, reached_ok, hcalls]
      exact h.served hserved
  | drain =>
    have hcalls : (a.next .drain).calls = a.calls := by simp [Archive.next, Archive.calls, Recorder.drain]
    rw [hcalls]
    exact ⟨h.numbers, h.once, h.touched, h.live, h.faithful⟩

end Replays

/-! ## Every history -/

variable {ι : Type} [DecidableEq ι]

theorem Replays.step {archives : ι → Archive} (h : ∀ i, Replays (archives i).calls (archives i).recorder)
    (e : ι × Access) (i : ι) : Replays (Archive.step archives e i).calls (Archive.step archives e i).recorder := by
  unfold Archive.step
  by_cases hi : i = e.1
  · rw [hi, Function.update_self]
    exact (h e.1).next e.2
  · rw [Function.update_of_ne hi]
    exact h i

theorem Replays.after {archives : ι → Archive} (h : ∀ i, Replays (archives i).calls (archives i).recorder)
    (history : List (ι × Access)) (i : ι) :
    Replays (Archive.after archives history i).calls (Archive.after archives history i).recorder := by
  induction history generalizing archives with
  | nil => exact h i
  | cons e rest ih => exact ih (Replays.step h e)

/-- **The calls of a recorder replay to its buffers.** Take any number of new recorders, on each of which any primitive
may always fail. Ask them for anything, on whatever handles: of another one of them, released, or made up; and drain
their logs whenever you like. Then the calls of each, those that were drained before those in its log, tell what it
holds: the numbers of allocations are 0, 1, 2 and so on; a number is released at most once; what a call releases, fills,
reads or copies was allocated before and not released before; the live buffers are those that were allocated and not
released; and each has the kind and the number of elements of its allocation. -/
theorem calls_replay (failOn : ι → Option String) (history : List (ι × Access)) (i : ι) :
    let archive := Archive.after (fun i => Archive.fresh (failOn i)) history i
    archive.calls.filterMap Call.allocated? = List.range archive.recorder.buffers.size ∧
      (archive.calls.filterMap Call.released?).Nodup ∧
      (∀ earlier c later, archive.calls = earlier ++ c :: later → ∀ id ∈ c.touched, LiveIn earlier id) ∧
      (∀ id, (archive.recorder.data? id).isSome ↔ LiveIn archive.calls id) ∧
      ∀ id p kind shape, archive.recorder.data? id = some p → .allocate id kind shape ∈ archive.calls →
        p.kind = kind ∧ p.length = volume shape :=
  have h := Replays.after (fun i => Replays.fresh (failOn i)) history i
  ⟨h.numbers, h.once, h.touched, h.live, h.faithful⟩

/-- two recorders with a buffer each: the handle of the first releases the buffer of the second, and the handle of the
second cannot fill the buffer of the first, the log of which was drained -/
theorem calls_replay_of_mixed_up :
    let first : BufferRef := ⟨0, .integer, [2]⟩
    let second : BufferRef := ⟨0, .bool, [3]⟩
    let history : List (Bool × Access) := [(true, .request (.allocate first.kind first.shape)),
      (false, .request (.allocate second.kind second.shape)), (true, .drain), (false, .request (.release first)),
      (true, .request (.fill second (.bool [true, true, true])))]
    let archives := Archive.after (fun _ => Archive.fresh none) history
    (archives true).recorder.log = #[] ∧ .allocate 0 .integer [2] ∈ (archives true).calls ∧
      (∃ p, (archives true).recorder.data? 0 = some p ∧ p.kind = .integer ∧ p.length = 2) ∧
      (archives false).recorder.data? 0 = none := by
  intro first second history archives
  have hmem : .allocate 0 .integer [2] ∈ (archives true).calls := by decide +kernel
  have hlive : ((archives true).recorder.data? 0).isSome := by decide +kernel
  have hreleased : .release 0 ∈ (archives false).calls := by decide +kernel
  obtain ⟨-, -, -, -, hfaithful⟩ := calls_replay (fun _ => none) history true
  obtain ⟨-, -, -, hlives, -⟩ := calls_replay (fun _ => none) history false
  obtain ⟨p, hp⟩ := Option.isSome_iff_exists.1 hlive
  refine ⟨by decide +kernel, hmem, ⟨p, hp, hfaithful 0 p _ _ hp hmem⟩, ?_⟩
  cases hdata : (archives false).recorder.data? 0 with
  | none => rfl
  | some q => exact absurd hreleased ((hlives 0).1 (by rw [hdata]; rfl)).2

end TensorGraph
