/-
Two recorders whose buffers are numbered apart.

Model: two recorders of different age get the same requests. Buffers that both had before keep their number, and the
ones that are new get numbers that differ by a constant (`renumber`). What the recorders then say and log is the same up
to this change of numbers, whatever their buffers hold, as long as buffers that correspond have the same kind and
length.

Main results:
- `Abreast.adding`, `.setting`, `.noting`, `.storing`, `.releasing`: what requests leave keeps two recorders abreast;
- `matched_fill`, `matched_copy`, `matched_compute`: two recorders that are abreast answer alike.
-/
import TensorGraph.Proofs.Motion
import TensorGraph.Proofs.Scratch

namespace TensorGraph

/-! ## Model -/

/-- the number that a buffer of `r` has on `t`: its own if `r` had it already, else as far from the next free number -/
def Recorder.shift (r t : Recorder) (id : Nat) : Nat :=
  if id < r.buffers.size then id else id - r.buffers.size + t.buffers.size

/-- a handle to the buffer of another number -/
def BufferRef.renumber (f : Nat → Nat) (t : BufferRef) : BufferRef := { t with id := f t.id }

def Call.renumber (f : Nat → Nat) : Call → Call
  | .allocate id kind shape => .allocate (f id) kind shape
  | .release id => .release (f id)
  | .fill id => .fill (f id)
  | .read id => .read (f id)
  | .copy x y => .copy (f x) (f y)
  | .compute kernel => .compute (kernel.map f)

def Fault.renumber (f : Nat → Nat) : Fault → Fault
  | .injected primitive => .injected primitive
  | .kindless kind => .kindless kind
  | .released id => .released (f id)
  | .notLive id => .notLive (f id)
  | .misfit id size kind givenSize givenKind => .misfit (f id) size kind givenSize givenKind
  | .incompatible x y => .incompatible (f x) (f y)

/-- the same fault but for the numbers of buffers, which only texts of the engine mention -/
inductive RunError.Renumbered (f : Nat → Nat) : RunError → RunError → Prop
  | engine (p : Primitive) (fault : Fault) :
    Renumbered f (.engine p fault.message) (.engine p (fault.renumber f).message)
  | operation (index : Nat) (name : String) {cause cause' : RunError} (h : Renumbered f cause cause') :
    Renumbered f (.operation index name cause) (.operation index name cause')
  | other {e : RunError} (hengine : ∀ p why, e ≠ .engine p why) (hoperation : e.isOperation = false) :
    Renumbered f e e

/-- payloads of the same kind and length -/
def Payload.Like (p q : Payload) : Prop := q.kind = p.kind ∧ q.length = p.length

namespace Recorder

/-- recorders that started as `r₀` and `t₀` and then got the same requests, up to the numbers of new buffers -/
structure Abreast (r₀ t₀ r t : Recorder) : Prop where
  failOn : t.failOn = r.failOn
  sizes : ∃ k, r.buffers.size = r₀.buffers.size + k ∧ t.buffers.size = t₀.buffers.size + k
  logs : ∃ calls, r.log.toList = r₀.log.toList ++ calls ∧
    t.log.toList = t₀.log.toList ++ calls.map (Call.renumber (r₀.shift t₀))

/-- answers of two recorders that are alike -/
inductive Matched (r₀ t₀ : Recorder) : EStateM.Result Fault Recorder Unit → EStateM.Result Fault Recorder Unit → Prop
  | ok {r t : Recorder} (h : Abreast r₀ t₀ r t) : Matched r₀ t₀ (.ok () r) (.ok () t)
  | error {r t : Recorder} (fault : Fault) (h : Abreast r₀ t₀ r t) :
    Matched r₀ t₀ (.error fault r) (.error (fault.renumber (r₀.shift t₀)) t)

end Recorder

/-! ## Numbers -/

theorem Recorder.shift_of_lt {r : Recorder} {id : Nat} (h : id < r.buffers.size) (t : Recorder) : r.shift t id = id :=
  if_pos h

theorem Recorder.shift_add (r t : Recorder) (k : Nat) : r.shift t (r.buffers.size + k) = t.buffers.size + k := by
  rw [shift, if_neg (by omega), Nat.add_sub_cancel_left, Nat.add_comm]

theorem BufferRef.sameView_renumber (f : Nat → Nat) : SameView (renumber f) := ⟨fun _ => rfl, fun _ => rfl⟩

theorem Payload.Like.fits {old old' p p' : Payload} (hold : old.Like old') (hp : p.Like p') :
    Recorder.fits old' p' = Recorder.fits old p := by
  rw [Bool.eq_iff_iff, Recorder.fits_iff, Recorder.fits_iff, hold.1, hold.2, hp.1, hp.2]

/-! ## Recorders -/

namespace Recorder

namespace Abreast

variable {r₀ t₀ r t : Recorder}

theorem refuses (h : Abreast r₀ t₀ r t) (p : Primitive) : t.Refuses p ↔ r.Refuses p := by
  rw [Refuses, Refuses, h.failOn]

/-- buffers to come correspond too -/
theorem shift_size (h : Abreast r₀ t₀ r t) (j : Nat) :
    r₀.shift t₀ (r.buffers.size + j) = t.buffers.size + j := by
  obtain ⟨k, hr, ht⟩ := h.sizes
  rw [hr, ht, Nat.add_assoc, shift_add, Nat.add_assoc]

/-- one call more on either side, and as many buffers more -/
theorem extend (h : Abreast r₀ t₀ r t) {r' t' : Recorder} {c : Call} {j : Nat} (hfail : r'.failOn = r.failOn)
    (hfail' : t'.failOn = t.failOn) (hsize : r'.buffers.size = r.buffers.size + j)
    (hsize' : t'.buffers.size = t.buffers.size + j) (hlog : r'.log.toList = r.log.toList ++ [c])
    (hlog' : t'.log.toList = t.log.toList ++ [c.renumber (r₀.shift t₀)]) : Abreast r₀ t₀ r' t' := by
  obtain ⟨k, hr, ht⟩ := h.sizes
  obtain ⟨calls, hcalls, hcalls'⟩ := h.logs
  refine ⟨by rw [hfail, hfail', h.failOn], ⟨k + j, by omega, by omega⟩, calls ++ [c], ?_, ?_⟩
  · rw [hlog, hcalls, List.append_assoc]
  · rw [hlog', hcalls', List.append_assoc, List.map_append, List.map_singleton]

theorem adding (h : Abreast r₀ t₀ r t) (kind : ElementKind) (shape : List Nat) (p q : Payload) :
    Abreast r₀ t₀ (r.adding kind shape p) (t.adding kind shape q) := by
  refine h.extend rfl rfl (size_adding ..) (size_adding ..) (log_adding ..) ?_
  rw [log_adding, Call.renumber, ← Nat.add_zero r.buffers.size, h.shift_size, Nat.add_zero]

theorem setting (h : Abreast r₀ t₀ r t) (id : Nat) (x y : Option Payload) (c : Call) :
    Abreast r₀ t₀ (r.setting id x c) (t.setting (r₀.shift t₀ id) y (c.renumber (r₀.shift t₀))) :=
  h.extend (j := 0) rfl rfl (size_setting ..) (size_setting ..) (log_setting ..) (log_setting ..)

theorem noting (h : Abreast r₀ t₀ r t) (c : Call) :
    Abreast r₀ t₀ (r.noting c) (t.noting (c.renumber (r₀.shift t₀))) :=
  h.extend (j := 0) rfl rfl rfl rfl (log_noting ..) (log_noting ..)

theorem storing (h : Abreast r₀ t₀ r t) (ls : List Literal) : Abreast r₀ t₀ (r.storing ls) (t.storing ls) := by
  induction ls generalizing r t with
  | nil => exact h
  | cons l rest ih =>
    have hfilled := (h.adding l.kind [] l.toPayload l.toPayload).noting (.fill r.buffers.size)
    rw [Call.renumber, ← Nat.add_zero r.buffers.size, h.shift_size, Nat.add_zero] at hfilled
    exact ih hfilled

theorem releasing (h : Abreast r₀ t₀ r t) (ids : List Nat) :
    Abreast r₀ t₀ (r.releasing ids) (t.releasing (ids.map (r₀.shift t₀))) := by
  induction ids generalizing r t with
  | nil => exact h
  | cons id rest ih => exact ih (h.setting id none none (.release id))

end Abreast

/-! ## Primitives -/

section

variable {r₀ t₀ r t : Recorder}

/-- new contents fit on both sides or on none -/
theorem matched_fill (h : Abreast r₀ t₀ r t) {u : BufferRef} {old old' p p' : Payload} (hr : r.data? u.id = some old)
    (ht : t.data? (r₀.shift t₀ u.id) = some old') (hold : old.Like old') (hp : p.Like p') :
    Matched r₀ t₀ (fill u p r) (fill (u.renumber (r₀.shift t₀)) p' t) := by
  by_cases hrefuses : r.Refuses .fill
  · rw [fill_refused hrefuses, fill_refused ((h.refuses .fill).2 hrefuses)]
    exact .error (.injected .fill) h
  · rw [fill_apply hrefuses hr, fill_apply (fun ht => hrefuses ((h.refuses .fill).1 ht)) ht, hold.fits hp]
    split
    · exact .ok (h.setting u.id (some p) (some p') (.fill u.id))
    · rw [hold.1, hold.2, hp.1, hp.2]
      exact .error (.misfit u.id old.length old.kind p.length p.kind) h

theorem matched_copy (h : Abreast r₀ t₀ r t) {x y : BufferRef} {source source' target target' : Payload}
    (hx : r.data? x.id = some source) (hx' : t.data? (r₀.shift t₀ x.id) = some source')
    (hy : r.data? y.id = some target) (hy' : t.data? (r₀.shift t₀ y.id) = some target')
    (hsource : source.Like source') (htarget : target.Like target') :
    Matched r₀ t₀ (copy x y r) (copy (x.renumber (r₀.shift t₀)) (y.renumber (r₀.shift t₀)) t) := by
  by_cases hrefuses : r.Refuses .copy
  · rw [copy_refused hrefuses, copy_refused ((h.refuses .copy).2 hrefuses)]
    exact .error (.injected .copy) h
  · rw [copy_apply hrefuses hx hy, copy_apply (fun ht => hrefuses ((h.refuses .copy).1 ht)) hx' hy',
      hsource.fits htarget]
    split
    · exact .ok (h.setting y.id (some source) (some source') (.copy x.id y.id))
    · exact .error (.incompatible x.id y.id) h

theorem matched_compute (h : Abreast r₀ t₀ r t) (k : Kernel BufferRef) :
    Matched r₀ t₀ (compute k r) (compute (k.map (BufferRef.renumber (r₀.shift t₀))) t) := by
  have hrefuses' : t.Refuses (k.map (BufferRef.renumber (r₀.shift t₀))).primitive ↔ r.Refuses k.primitive := by
    rw [Kernel.primitive_map, h.refuses]
  by_cases hrefuses : r.Refuses k.primitive
  · rw [compute_refused hrefuses, compute_refused (hrefuses'.2 hrefuses), Kernel.primitive_map]
    exact .error (.injected k.primitive) h
  · rw [compute_apply hrefuses, compute_apply fun ht => hrefuses (hrefuses'.1 ht)]
    have hnoted := h.noting (.compute (k.map BufferRef.id))
    rw [Call.renumber, Kernel.map_map] at hnoted
    rw [Kernel.map_map]
    exact .ok hnoted

end

end Recorder

end TensorGraph
