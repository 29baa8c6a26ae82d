/-
What an engine can be asked, and what a recorder does about it.

Model: a `Request` is one primitive with its arguments, on any handles: what is asked of a recorder need not name
buffers of its own, or buffers that are still live. `Served` lists what a recorder does when it goes well, one
constructor for each primitive that moves data and one for all that compute.

Main results:
- `Recorder.serve_ok`, `Recorder.serve_error`: a request that goes well is served as listed, and one that fails leaves
  the recorder alone;
- `Recorder.serve_atomic`: every primitive is atomic and logged once.
-/
import TensorGraph.Proofs.Agreement

namespace TensorGraph

/-! ## Model -/

/-- one primitive with its arguments -/
inductive Request (τ : Type)
  | allocate (kind : ElementKind) (shape : List Nat)
  | release (t : τ)
  | fill (t : τ) (p : Payload)
  | read (t : τ)
  | copy (x y : τ)
  | compute (kernel : Kernel τ)
deriving DecidableEq, Repr

/-- what a primitive gives back -/
inductive Reply (τ : Type)
  | done
  | handle (t : τ)
  | contents (p : Payload)
deriving DecidableEq, Repr

namespace Request

variable {σ τ : Type}

def primitive : Request τ → Primitive
  | .allocate .. => .allocate
  | .release .. => .release
  | .fill .. => .fill
  | .read .. => .read
  | .copy .. => .copy
  | .compute k => k.primitive

/-- make a request of an engine -/
def serve [Engine σ τ] : Request τ → EStateM String σ (Reply τ)
  | .allocate kind shape => do
    let t ← Engine.allocate kind shape
    return .handle t
  | .release t => do
    Engine.release t
    return .done
  | .fill t p => do
    Engine.fill t p
    return .done
  | .read t => do
    let p ← Engine.read t
    return .contents p
  | .copy x y => do
    Engine.copy x y
    return .done
  | .compute k => do
    Engine.compute k
    return .done

/-- the entry of a request in the log of a recorder -/
def call (r : Recorder) : Request BufferRef → Call
  | .allocate kind shape => .allocate r.buffers.size kind shape
  | .release t => .release t.id
  | .fill t _ => .fill t.id
  | .read t => .read t.id
  | .copy x y => .copy x.id y.id
  | .compute k => .compute (k.map BufferRef.id)

/-- the buffer that a request is free to change -/
def target? (r : Recorder) : Request BufferRef → Option Nat
  | .allocate .. => some r.buffers.size
  | .release t => some t.id
  | .fill t _ => some t.id
  | .copy _ y => some y.id
  | .read _ | .compute _ => none

/-- what is in that buffer afterwards -/
def contents? (r : Recorder) : Request BufferRef → Option Payload
  | .allocate kind shape => Payload.zeros kind (volume shape)
  | .fill _ p => some p
  | .copy x _ => r.data? x.id
  | .release _ | .read _ | .compute _ => none

theorem primitive_call (q : Request BufferRef) (r : Recorder) : (q.call r).primitive = q.primitive := by
  cases q with
  | compute k => exact Kernel.primitive_map BufferRef.id k
  | _ => rfl

end Request

/-- whether a fault was asked for -/
def Fault.isInjected : Fault → Bool
  | .injected _ => true
  | _ => false

/-- no fault but an injected one is put in the same words -/
theorem Fault.isInjected_of_message {f : Fault} {p : Primitive} (h : f.message = (Fault.injected p).message) :
    f.isInjected = true := by
  have hhead := f.head?_message
  rw [h, head?_message] at hhead
  cases f <;> first | rfl | cases hhead

namespace Recorder

/-! ## Requests that go well -/

/-- what a recorder does about a request that goes well -/
inductive Served (r : Recorder) : Request BufferRef → Reply BufferRef → Recorder → Prop
  | allocate {kind : ElementKind} {shape : List Nat} {zeros : Payload}
    (hzeros : Payload.zeros kind (volume shape) = some zeros) :
    Served r (.allocate kind shape) (.handle ⟨r.buffers.size, kind, shape⟩) (r.adding kind shape zeros)
  | release {t : BufferRef} {p : Payload} (hlive : r.data? t.id = some p) :
    Served r (.release t) .done (r.setting t.id none (.release t.id))
  | fill {t : BufferRef} {p old : Payload} (hlive : r.data? t.id = some old) (hfits : fits old p = true) :
    Served r (.fill t p) .done (r.setting t.id (some p) (.fill t.id))
  | read {t : BufferRef} {p : Payload} (hlive : r.data? t.id = some p) :
    Served r (.read t) (.contents p) (r.noting (.read t.id))
  | copy {x y : BufferRef} {source target : Payload} (hsource : r.data? x.id = some source)
    (htarget : r.data? y.id = some target) (hfits : fits source target = true) :
    Served r (.copy x y) .done (r.setting y.id (some source) (.copy x.id y.id))
  | compute {k : Kernel BufferRef} :
    Served r (.compute k) .done (r.noting (.compute (k.map BufferRef.id)))

/-- a primitive that fails without a trace, and with the injected fault exactly if it is the one that always fails -/
structure Guarded {α : Type} (p : Primitive) (act : EStateM Fault Recorder α) : Prop where
  refused : ∀ {r : Recorder}, r.Refuses p → act r = .error (.injected p) r
  error : ∀ {r r' : Recorder} {f : Fault}, act r = .error f r' → r' = r ∧ (f.isInjected = true ↔ r.Refuses p)

theorem Guarded.attempt {α : Type} {p : Primitive} {act : EStateM Fault Recorder α}
    (h : ∀ r f r', act r = .error f r' → r' = r ∧ f.isInjected = false) : Guarded p (attempt p act) where
  refused hr := attempt_of_refuses hr act
  error {r r' f} herror := by
    by_cases hr : r.Refuses p
    · rw [attempt_of_refuses hr] at herror
      cases herror
      exact ⟨rfl, iff_of_true rfl hr⟩
    · rw [attempt_of_not_refuses hr] at herror
      obtain ⟨hsame, hnot⟩ := h r f r' herror
      exact ⟨hsame, iff_of_false (by rw [hnot]; exact Bool.false_ne_true) hr⟩

theorem guarded_allocate (kind : ElementKind) (shape : List Nat) : Guarded .allocate (allocate kind shape) := by
  refine Guarded.attempt fun r f r' h => ?_
  cases hz : Payload.zeros kind (volume shape) with
  | none => rw [hz] at h; cases h; exact ⟨rfl, rfl⟩
  | some zeros => rw [hz] at h; cases h

theorem guarded_release (t : BufferRef) : Guarded .release (release t) := by
  refine Guarded.attempt fun r f r' h => ?_
  cases ht : r.data? t.id with
  | none => rw [ht] at h; cases h; exact ⟨rfl, rfl⟩
  | some p => rw [ht] at h; cases h

theorem guarded_fill (t : BufferRef) (p : Payload) : Guarded .fill (fill t p) := by
  refine Guarded.attempt fun r f r' h => ?_
  cases ht : r.data? t.id with
  | none => rw [ht] at h; cases h; exact ⟨rfl, rfl⟩
  | some old =>
    rw [ht] at h
    dsimp only at h
    cases hfits : fits old p with
    | false => rw [hfits] at h; cases h; exact ⟨rfl, rfl⟩
    | true => rw [hfits] at h; cases h

theorem guarded_read (t : BufferRef) : Guarded .read (read t) := by
  refine Guarded.attempt fun r f r' h => ?_
  cases ht : r.data? t.id with
  | none => rw [ht] at h; cases h; exact ⟨rfl, rfl⟩
  | some p => rw [ht] at h; cases h

theorem guarded_copy (x y : BufferRef) : Guarded .copy (copy x y) := by
  refine Guarded.attempt fun r f r' h => ?_
  cases hx : r.data? x.id with
  | none => rw [hx] at h; cases h; exact ⟨rfl, rfl⟩
  | some source =>
    cases hy : r.data? y.id with
    | none => rw [hx, hy] at h; cases h; exact ⟨rfl, rfl⟩
    | some target =>
      rw [hx, hy] at h
      dsimp only at h
      cases hfits : fits source target with
      | false => rw [hfits] at h; cases h; exact ⟨rfl, rfl⟩
      | true => rw [hfits] at h; cases h

theorem guarded_compute (k : Kernel BufferRef) : Guarded k.primitive (compute k) := by
  rw [compute_eq_attempt]
  exact Guarded.attempt fun _ _ _ h => nomatch h

theorem served_allocate {kind : ElementKind} {shape : List Nat} {r r' : Recorder} {t : BufferRef}
    (h : allocate kind shape r = .ok t r') : r.Served (.allocate kind shape) (.handle t) r' := by
  have hr := (allocate_ok h).1
  cases hz : Payload.zeros kind (volume shape) with
  | none =>
    rw [show allocate kind shape r = _ from attempt_of_not_refuses hr _, hz] at h
    cases h
  | some zeros =>
    rw [allocate_apply hr hz] at h
    cases h
    exact .allocate hz

/-- every request is a guarded primitive, put in words -/
theorem served_by (q : Request BufferRef) :
    ∃ (α : Type) (act : EStateM Fault Recorder α) (answer : α → Reply BufferRef),
      (∀ r, q.serve r = mapResult answer id (inWords act r)) ∧ Guarded q.primitive act ∧
        ∀ {r a r'}, act r = .ok a r' → r.Served q (answer a) r' := by
  cases q with
  | allocate kind shape =>
    exact ⟨_, allocate kind shape, .handle, bind_pure_apply _ _, guarded_allocate kind shape, served_allocate⟩
  | release t =>
    refine ⟨_, release t, fun _ => .done, bind_pure_apply _ _, guarded_release t, fun h => ?_⟩
    obtain ⟨-, hlive, rfl⟩ := release_ok h
    obtain ⟨p, hp⟩ := Option.isSome_iff_exists.1 hlive
    exact .release hp
  | fill t p =>
    refine ⟨_, fill t p, fun _ => .done, bind_pure_apply _ _, guarded_fill t p, fun h => ?_⟩
    obtain ⟨-, old, hlive, hfits, rfl⟩ := fill_ok h
    exact .fill hlive hfits
  | read t =>
    refine ⟨_, read t, .contents, bind_pure_apply _ _, guarded_read t, fun h => ?_⟩
    obtain ⟨-, hlive, rfl⟩ := read_ok h
    exact .read hlive
  | copy x y =>
    refine ⟨_, copy x y, fun _ => .done, bind_pure_apply _ _, guarded_copy x y, fun h => ?_⟩
    obtain ⟨-, source, target, hsource, htarget, hfits, rfl⟩ := copy_ok h
    exact .copy hsource htarget hfits
  | compute k =>
    refine ⟨_, compute k, fun _ => .done, bind_pure_apply _ _, guarded_compute k, fun h => ?_⟩
    obtain ⟨-, rfl⟩ := compute_ok h
    exact .compute

section

variable {r r' : Recorder} {q : Request BufferRef}

theorem serve_ok {reply : Reply BufferRef} (h : q.serve r = .ok reply r') : r.Served q reply r' := by
  obtain ⟨α, act, answer, hserve, -, hok⟩ := served_by q
  rw [hserve, inWords_apply] at h
  cases hact : act r with
  | error f r₁ => rw [hact] at h; cases h
  | ok a r₁ => rw [hact] at h; cases h; exact hok hact

theorem serve_error {why : String} (h : q.serve r = .error why r') :
    r' = r ∧ ∃ f : Fault, why = f.message ∧ (f.isInjected = true ↔ r.Refuses q.primitive) := by
  obtain ⟨α, act, answer, hserve, hguarded, -⟩ := served_by q
  rw [hserve, inWords_apply] at h
  cases hact : act r with
  | ok a r₁ => rw [hact] at h; cases h
  | error f r₁ =>
    rw [hact] at h
    cases h
    obtain ⟨hsame, hinjected⟩ := hguarded.error hact
    exact ⟨hsame, f, rfl, hinjected⟩

theorem serve_refused (h : r.Refuses q.primitive) : q.serve r = .error (Fault.injected q.primitive).message r := by
  obtain ⟨α, act, answer, hserve, hguarded, -⟩ := served_by q
  rw [hserve, inWords_apply, hguarded.refused h]
  rfl

end

/-! ## Every primitive -/

theorem getElem?_setting {r : Recorder} {id : Nat} {old : Payload} (h : r.data? id = some old) (x : Option Payload)
    (c : Call) (j : Nat) : (r.setting id x c).buffers[j]? = if some id = some j then some x else r.buffers[j]? := by
  unfold setting
  rw [Array.getElem?_setIfInBounds, if_pos (lt_size_of_data? h)]
  simp only [Option.some.injEq]

/-- a request that goes well leaves one more entry in the log, and one other buffer at most -/
theorem Served.leaves {r r' : Recorder} {q : Request BufferRef} {reply : Reply BufferRef} (h : r.Served q reply r') :
    r'.failOn = r.failOn ∧ r'.log = r.log.push (q.call r) ∧
      ∀ id, r'.buffers[id]? = if q.target? r = some id then some (q.contents? r) else r.buffers[id]? := by
  cases h with
  | allocate hzeros =>
    refine ⟨rfl, rfl, fun id => ?_⟩
    simp only [adding, Array.getElem?_push, Request.target?, Request.contents?, hzeros, Option.some.injEq, eq_comm]
  | release hlive => exact ⟨rfl, rfl, getElem?_setting hlive _ _⟩
  | fill hlive hfits => exact ⟨rfl, rfl, getElem?_setting hlive _ _⟩
  | read hlive => exact ⟨rfl, rfl, fun _ => rfl⟩
  | copy hsource htarget hfits =>
    refine ⟨rfl, rfl, fun id => ?_⟩
    rw [Request.contents?, hsource]
    exact getElem?_setting htarget _ _ id
  | compute => exact ⟨rfl, rfl, fun _ => rfl⟩

/-- **Every primitive is atomic and logged once.** Ask a recorder in any state for any primitive, on any handles. If
that fails, the recorder is as it was. If it goes well, the log has one more entry, of that primitive and with the
numbers of the handles and the parameters that were given, and no buffer has changed but the one that the primitive is
about: a new last one with zeros for an allocation, which is the one that is handed out; none for a release; the new
contents for a fill, those of the source for a copy; and all others change no buffer. The fault is an injected one
exactly if the primitive is the one that always fails, whatever else is wrong with the request. -/
theorem serve_atomic (r : Recorder) (q : Request BufferRef) :
    (∀ why r', q.serve r = .error why r' → r' = r) ∧
      (∀ reply r', q.serve r = .ok reply r' →
        r'.failOn = r.failOn ∧ r'.log = r.log.push (q.call r) ∧ (q.call r).primitive = q.primitive ∧
        (∀ id, r'.buffers[id]? = if q.target? r = some id then some (q.contents? r) else r.buffers[id]?) ∧
        ∀ kind shape, q = .allocate kind shape → reply = .handle ⟨r.buffers.size, kind, shape⟩) ∧
      (r.failOn = some q.primitive.name → q.serve r = .error (Fault.injected q.primitive).message r) ∧
      ∀ p r', q.serve r = .error (Fault.injected p).message r' → r.failOn = some q.primitive.name := by
  refine ⟨fun why r' h => (serve_error h).1, fun reply r' h => ?_, serve_refused, fun p r' h => ?_⟩
  · have hserved := serve_ok h
    obtain ⟨hfail, hlog, hbuffers⟩ := hserved.leaves
    refine ⟨hfail, hlog, q.primitive_call r, hbuffers, fun kind shape hq => ?_⟩
    subst hq
    cases hserved
    rfl
  · obtain ⟨-, f, hmessage, hinjected⟩ := serve_error h
    exact hinjected.1 (Fault.isInjected_of_message hmessage.symm)

/-- a recorder that fails to copy, with one live buffer and one that was released: a copy between buffers of another
engine is refused as injected, a second release is not, and a fill of the live buffer goes well -/
theorem serve_atomic_of_stale :
    let r : Recorder := ⟨#[some (.integer [1, 2]), none], #[], some Primitive.copy.name⟩
    let live : BufferRef := ⟨0, .integer, [2]⟩
    let stale : BufferRef := ⟨1, .integer, [2]⟩
    let foreign : BufferRef := ⟨7, .bool, []⟩
    r.failOn = some Primitive.copy.name ∧
      (Request.copy foreign foreign).serve r = .error (Fault.injected .copy).message r ∧
      ∃ r', (Request.fill live (.integer [3, 4])).serve r = .ok .done r' ∧ r'.log = #[.fill 0] ∧
        r'.buffers[0]? = some (some (.integer [3, 4])) ∧ r'.buffers[1]? = some none ∧
        (Request.release stale).serve r' = .error (Fault.released 1).message r' := by
  intro r live stale foreign
  refine ⟨rfl, (serve_atomic r (.copy foreign foreign)).2.2.1 rfl, ?_⟩
  have hfills : fault? ((Request.fill live (.integer [3, 4])).serve r) = none := by decide +kernel
  cases hfill : (Request.fill live (.integer [3, 4])).serve r with
  | error why r' => rw [hfill] at hfills; cases hfills
  | ok reply r' =>
    obtain ⟨hfail, hlog, -, hbuffers, -⟩ := (serve_atomic r _).2.1 reply r' hfill
    have hreply : reply = .done := by cases serve_ok hfill; rfl
    have hlive : r'.data? 1 = none := by rw [data?, hbuffers]; rfl
    have hreleases : release stale r' = .error (.released 1) r' := by
      have hnot : ¬ r'.Refuses .release := by rw [Refuses, hfail]; decide
      rw [show release stale r' = _ from attempt_of_not_refuses hnot _, hlive]
    refine ⟨r', hreply ▸ rfl, hlog, hbuffers 0, hbuffers 1, ?_⟩
    rw [show (Request.release stale).serve r' = _ from bind_pure_apply _ _ r', engine_release, inWords_apply, hreleases]
    rfl

end Recorder

end TensorGraph
