/-
Requests to compute, as the log of a recorder shows them.

Model: a log says with which shape a buffer was allocated (`shapeIn`). It is `Formed` if every request to compute in it
fits the shapes with which its tensors were allocated before. The handles of a session are `Filed` in the log with
their shapes, so what was decided on handles is what a reader of the log sees.

Main results:
- `Recorder.filing`: numbers of buffers are given out in order, and every handle shows what it was allocated with;
- `computes_wellFormed`: every request to compute is well formed.
-/
import TensorGraph.Proofs.Coupling
import TensorGraph.Proofs.Geometry
import TensorGraph.Proofs.Motion
import TensorGraph.Proofs.Scratch

namespace TensorGraph

/-! ## Model -/

def Call.isCompute : Call → Bool
  | .compute _ => true
  | _ => false

/-- the shape that a request allocates a buffer with -/
def Call.shapeOf? (id : Nat) : Call → Option (List Nat)
  | .allocate id' _ shape => if id' = id then some shape else none
  | _ => none

/-- the shape that a buffer was allocated with, according to a log -/
def shapeIn (log : List Call) (id : Nat) : List Nat := (log.findSome? (Call.shapeOf? id)).getD []

/-- a log in which every request to compute fits the shapes that its tensors were allocated with -/
def Formed (log : List Call) : Prop :=
  ∀ earlier kernel later, log = earlier ++ .compute kernel :: later →
    (∀ id ∈ kernel.handles, ∃ kind, .allocate id kind (shapeIn earlier id) ∈ earlier) ∧
      kernel.WellFormed (shapeIn earlier)

/-- numbers given out in order, and handles that show what was allocated under their number -/
structure Filed (held : List BufferRef) (r : Recorder) : Prop where
  numbers : r.log.toList.filterMap Call.allocated? = List.range r.buffers.size
  logged : ∀ t ∈ held, .allocate t.id t.kind t.shape ∈ r.log.toList

/-- a primitive that fails without a trace, or else adds a call to the log and no buffer -/
structure Recorder.Adds {α : Type} (c : Call) (act : EStateM Fault Recorder α) : Prop where
  atomic : Atomic act
  ok : ∀ {r r' : Recorder} {a : α}, act r = .ok a r' →
    r'.log.toList = r.log.toList ++ [c] ∧ r'.buffers.size = r.buffers.size

/-! ## Primitives -/

namespace Recorder

theorem adds_release (t : BufferRef) : Adds (.release t.id) (release t) where
  atomic := atomic_release t
  ok h := by
    obtain ⟨-, -, rfl⟩ := release_ok h
    exact ⟨log_setting .., size_setting ..⟩

theorem adds_fill (t : BufferRef) (p : Payload) : Adds (.fill t.id) (fill t p) where
  atomic := atomic_fill t p
  ok h := by
    obtain ⟨-, old, -, -, rfl⟩ := fill_ok h
    exact ⟨log_setting .., size_setting ..⟩

theorem adds_read (t : BufferRef) : Adds (.read t.id) (read t) where
  atomic := atomic_read t
  ok h := by
    obtain ⟨-, -, rfl⟩ := read_ok h
    exact ⟨log_noting .., size_noting ..⟩

theorem adds_copy (x y : BufferRef) : Adds (.copy x.id y.id) (copy x y) where
  atomic := atomic_copy x y
  ok h := by
    obtain ⟨-, source, target, -, -, -, rfl⟩ := copy_ok h
    exact ⟨log_setting .., size_setting ..⟩

theorem adds_compute (k : Kernel BufferRef) : Adds (.compute (k.map BufferRef.id)) (compute k) where
  atomic := atomic_compute k
  ok h := by
    obtain ⟨-, rfl⟩ := compute_ok h
    exact ⟨log_noting .., size_noting ..⟩

end Recorder

/-! ## Shapes in a log -/

theorem mem_allocated? {log : List Call} {id : Nat} {kind : ElementKind} {shape : List Nat}
    (h : .allocate id kind shape ∈ log) : id ∈ log.filterMap Call.allocated? :=
  List.mem_filterMap.2 ⟨_, h, rfl⟩

/-- numbers that are given out once have one shape -/
theorem shapeIn_of_mem {log : List Call} (hnodup : (log.filterMap Call.allocated?).Nodup) {id : Nat}
    {kind : ElementKind} {shape : List Nat} (h : .allocate id kind shape ∈ log) : shapeIn log id = shape := by
  have hfound : log.findSome? (Call.shapeOf? id) = some shape := by
    induction log with
    | nil => cases h
    | cons c rest ih =>
      rw [List.findSome?_cons]
      rcases List.mem_cons.1 h with rfl | hmem
      · simp [Call.shapeOf?]
      · have hrest : (rest.filterMap Call.allocated?).Nodup :=
          hnodup.sublist ((List.sublist_cons_self c rest).filterMap _)
        have hother : c.shapeOf? id = none := by
          cases c with
          | allocate id' kind' shape' =>
            have hne : id' ≠ id := by
              rintro rfl
              exact (List.nodup_cons.1 hnodup).1 (mem_allocated? hmem)
            exact if_neg hne
          | _ => rfl
        rw [hother]
        exact ih hrest hmem
  rw [shapeIn, hfound, Option.getD_some]

/-! ## Logs -/

theorem Formed.snoc {log : List Call} (h : Formed log) {c : Call} (hc : ∀ kernel, c = .compute kernel →
    (∀ id ∈ kernel.handles, ∃ kind, .allocate id kind (shapeIn log id) ∈ log) ∧ kernel.WellFormed (shapeIn log)) :
    Formed (log ++ [c]) := by
  intro earlier kernel later heq
  rcases append_cons_of_snoc heq with ⟨rfl, hkernel⟩ | ⟨later', heq⟩
  · exact hc kernel hkernel.symm
  · exact h earlier kernel later' heq

theorem Formed.append {log calls : List Call} (h : Formed log) (hcalls : ∀ c ∈ calls, c.isCompute = false) :
    Formed (log ++ calls) := by
  induction calls generalizing log with
  | nil => rwa [List.append_nil]
  | cons c rest ih =>
    rw [List.append_cons]
    refine ih (h.snoc fun kernel hc => ?_) fun c' hc' => hcalls c' (List.mem_cons_of_mem c hc')
    have hnot := hcalls c List.mem_cons_self
    rw [hc] at hnot
    cases hnot

namespace Filed

variable {held : List BufferRef} {r : Recorder}

theorem adding (h : Filed held r) (kind : ElementKind) (shape : List Nat) (p : Payload) :
    Filed (⟨r.buffers.size, kind, shape⟩ :: held) (r.adding kind shape p) where
  numbers := by
    rw [Recorder.log_adding, Recorder.size_adding, List.filterMap_append, h.numbers, List.range_succ]
    rfl
  logged t ht := by
    rw [Recorder.log_adding]
    rcases List.mem_cons.1 ht with rfl | ht
    · exact List.mem_append_right _ List.mem_cons_self
    · exact List.mem_append_left _ (h.logged t ht)

/-- handles stay filed, whatever else is done -/
theorem adds {α : Type} (h : Filed held r) {held' : List BufferRef} (hsub : held' ⊆ held) {c : Call}
    {act : EStateM Fault Recorder α} (ha : Recorder.Adds c act) (hc : c.allocated? = none) :
    Filed held' (reached (Recorder.inWords act r)) := by
  rw [Recorder.reached_inWords]
  cases hact : act r with
  | error f r' =>
    obtain rfl := ha.atomic r f r' hact
    exact ⟨h.numbers, fun t ht => h.logged t (hsub ht)⟩
  | ok a r' =>
    obtain ⟨hlog, hsize⟩ := ha.ok hact
    refine ⟨?_, fun t ht => ?_⟩
    · rw [reached_ok, hlog, hsize, List.filterMap_append, h.numbers]
      simp [hc]
    · rw [reached_ok, hlog]
      exact List.mem_append_left _ (h.logged t (hsub ht))

end Filed

/-- the files of a recorder -/
def Recorder.filing : Custody Recorder BufferRef where
  Holds := Filed
  of_perm hperm h := ⟨h.numbers, fun t ht => h.logged t (hperm.mem_iff.2 ht)⟩
  allocate {held r} kind shape h := by
    rw [engine_allocate, inWords_apply]
    cases ha : Recorder.allocate kind shape r with
    | ok t r' =>
      obtain ⟨-, rfl, zeros, -, -, rfl⟩ := allocate_ok ha
      exact h.adding kind shape zeros
    | error f r' =>
      obtain rfl := atomic_allocate kind shape r f r' ha
      exact h
  release t h := h.adds (List.subset_cons_self _ _) (adds_release t) rfl
  fill {_ _ t} p _ h := h.adds (List.Subset.refl _) (adds_fill t p) rfl
  read {_ _ t} _ h := h.adds (List.Subset.refl _) (adds_read t) rfl
  copy {_ _ x y} _ _ h := h.adds (List.Subset.refl _) (adds_copy x y) rfl
  compute {_ _ k} _ h := h.adds (List.Subset.refl _) (adds_compute k) rfl

/-! ## Actions that do not compute -/

namespace Session

/-- a log that only grew, and by nothing but storage and copies -/
def Quiet (s s' : Session Recorder BufferRef) : Prop :=
  ∃ calls, s'.engine.log.toList = s.engine.log.toList ++ calls ∧ ∀ c ∈ calls, c.isCompute = false

theorem Quiet.refl (s : Session Recorder BufferRef) : Quiet s s := ⟨[], (List.append_nil _).symm, by simp⟩

theorem Quiet.formed {s s' : Session Recorder BufferRef} (h : Quiet s s') (hs : Formed s.engine.log.toList) :
    Formed s'.engine.log.toList := by
  obtain ⟨calls, hlog, hquiet⟩ := h
  rw [hlog]
  exact hs.append hquiet

/-- a primitive that does not compute, made as a request -/
theorem quiet_invoke {α : Type} {c : Call} {act : EStateM Fault Recorder α} (ha : Recorder.Adds c act)
    (hc : c.isCompute = false) (p : Primitive) (s : Session Recorder BufferRef) :
    Quiet s (reached (invoke p (Recorder.inWords act) s)) := by
  rw [reached_invoke, Recorder.reached_inWords]
  cases hact : act s.engine with
  | error f r' =>
    obtain rfl := ha.atomic _ f r' hact
    exact Quiet.refl s
  | ok a r' => exact ⟨[c], (ha.ok hact).1, fun c' hc' => List.mem_singleton.1 hc' ▸ hc⟩

theorem quiet_allocate (kind : ElementKind) (shape : List Nat) (s : Session Recorder BufferRef) :
    Quiet s (reached (invoke .allocate (Engine.allocate kind shape) s)) := by
  rw [reached_invoke, Recorder.engine_allocate, Recorder.reached_inWords]
  cases hact : Recorder.allocate kind shape s.engine with
  | error f r' =>
    obtain rfl := Recorder.atomic_allocate kind shape _ f r' hact
    exact Quiet.refl s
  | ok t r' =>
    obtain ⟨-, -, zeros, -, -, rfl⟩ := Recorder.allocate_ok hact
    exact ⟨[_], Recorder.log_adding .., by simp [Call.isCompute]⟩

/-- storage does not compute -/
def quiet : Motion Recorder BufferRef where
  Moves := Quiet
  refl := Quiet.refl
  trans := by
    rintro s t u ⟨calls, hcalls, hquiet⟩ ⟨calls', hcalls', hquiet'⟩
    refine ⟨calls ++ calls', by rw [hcalls', hcalls, List.append_assoc], fun c hc => ?_⟩
    exact (List.mem_append.1 hc).elim (hquiet c) (hquiet' c)
  names s _ _ _ := Quiet.refl s
  allocate := quiet_allocate
  release t := quiet_invoke (Recorder.adds_release t) rfl .release
  fill t p := quiet_invoke (Recorder.adds_fill t p) rfl .fill
  read t := quiet_invoke (Recorder.adds_read t) rfl .read

/-! ## Operations -/

/-- a request that fits the shapes of its handles fits the shapes that these were allocated with -/
theorem formed_compute {s : Session Recorder BufferRef} (hs : Safe Recorder.filing s)
    (hf : Formed s.engine.log.toList) {k : Kernel BufferRef} (hheld : ∀ t ∈ k.handles, t ∈ s.held)
    (hk : k.WellFormed Handle.shape) {r : Recorder} (h : Recorder.compute k s.engine = .ok () r) :
    Formed r.log.toList := by
  have hnodup : (s.engine.log.toList.filterMap Call.allocated?).Nodup := hs.numbers ▸ List.nodup_range
  have hshape : ∀ t ∈ k.handles, Handle.shape t = shapeIn s.engine.log.toList t.id := fun t ht =>
    (shapeIn_of_mem hnodup (hs.logged t (hheld t ht))).symm
  rw [((Recorder.adds_compute k).ok h).1]
  refine hf.snoc fun kernel hkernel => ?_
  obtain rfl := Call.compute.inj hkernel
  refine ⟨fun id hid => ?_, Kernel.wellFormed_map.2 (hk.congr hshape)⟩
  rw [Kernel.handles_map] at hid
  obtain ⟨t, ht, rfl⟩ := List.mem_map.1 hid
  rw [← hshape t ht]
  exact ⟨t.kind, hs.logged t (hheld t ht)⟩

theorem formed_issue {s : Session Recorder BufferRef} (hs : Safe Recorder.filing s)
    (hf : Formed s.engine.log.toList) {i : Instruction BufferRef} (hheld : ∀ t ∈ i.handles, t ∈ s.held)
    (hi : i.WellFormed) : Formed (reached (issue i s)).engine.log.toList := by
  cases i with
  | idle => exact hf
  | fill t p => exact (quiet_invoke (Recorder.adds_fill t p) rfl .fill s).formed hf
  | copy x y => exact (quiet_invoke (Recorder.adds_copy x y) rfl .copy s).formed hf
  | compute name k =>
    rw [issue, reached_invoke, Recorder.engine_compute, Recorder.reached_inWords]
    cases hact : Recorder.compute k s.engine with
    | error f r =>
      obtain rfl := Recorder.atomic_compute k _ f r hact
      exact hf
    | ok u r => exact formed_compute hs hf hheld hi hact

theorem formed_perform {s : Session Recorder BufferRef} (hs : Safe Recorder.filing s)
    (hf : Formed s.engine.log.toList) (o : Operator) (op : Operation) :
    Formed (reached (perform o op s)).engine.log.toList := by
  have hdispatch : Formed (reached (dispatch o op s)).engine.log.toList := by
    unfold dispatch
    rw [bind_apply]
    cases o.precheck op with
    | error e => exact hf
    | ok u =>
      have hfound := (gathering Recorder.filing).fillSlots op o.signature s hs
      have hquiet := ((Elementary.lookingUp quiet).fillSlots op o.signature).moves s
      dsimp only [decided, pure_apply]
      rw [bind_apply]
      cases hlookup : supply.fillSlots op o.signature s with
      | error e s₁ =>
        rw [hlookup] at hquiet
        exact Quiet.formed hquiet hf
      | ok xs s₁ =>
        rw [hlookup] at hfound hquiet
        obtain ⟨hs₁, -, hxs⟩ := hfound
        have hf₁ := Quiet.formed hquiet hf
        dsimp only
        rw [bind_apply]
        cases hplan : o.plan op xs with
        | error e => exact hf₁
        | ok i =>
          have hheld : ∀ t ∈ i.handles, t ∈ s₁.held := fun t ht => hxs (mem_operands_of_plan hplan t ht)
          exact formed_issue hs₁ hf₁ hheld (wellFormed_plan o op xs i hplan)
  unfold perform
  split
  · rw [reached_both]
    exact Quiet.formed (Elementary.releaseScratch (M := quiet) |>.moves _) hdispatch
  · exact hf

/-! ## Every history -/

theorem filed_fresh (failOn : Option String) : Filed [] ⟨#[], #[], failOn⟩ := ⟨rfl, nofun⟩

theorem formed_nil : Formed [] := fun earlier kernel later h => by simp at h

/-- handles of a session are filed and its log is well formed -/
theorem invariant_formed :
    Invariant fun s : Session Recorder BufferRef => AtRest Recorder.filing s ∧ Formed s.engine.log.toList where
  bindTensor t s hs := ⟨bindTensor_keeps _ t s hs.1, Quiet.formed (Elementary.bindTensor (M := quiet) t |>.moves s) hs.2⟩
  store t s hs := ⟨store_keeps _ t s hs.1, Quiet.formed (Elementary.store (M := quiet) t |>.moves s) hs.2⟩
  load t s hs := ⟨load_keeps _ t s hs.1, Quiet.formed (Elementary.load (M := quiet) t |>.moves s) hs.2⟩
  perform o op s hs := ⟨(invariant_atRest _).perform o op s hs.1, formed_perform hs.1.safe hs.2 o op⟩
  clear s hs := ⟨clear_keeps _ s hs.1, Quiet.formed (Elementary.clear (M := quiet) |>.moves s) hs.2⟩

/-- **Requests to compute are well formed.** Take any session on a recorder, whatever its history and whichever primitive
always fails. No number is given to two buffers. Every request to compute in the log names buffers that were allocated
before, and fits the shapes that they were allocated with. -/
theorem computes_wellFormed (failOn : Option String) (history : List Step) :
    let log := ((fresh failOn).after history).engine.log.toList
    (log.filterMap Call.allocated?).Nodup ∧
      ∀ earlier kernel later, log = earlier ++ .compute kernel :: later →
        (∀ id ∈ kernel.handles, ∃ kind, .allocate id kind (shapeIn earlier id) ∈ earlier) ∧
          kernel.WellFormed (shapeIn earlier) := by
  obtain ⟨hrest, hformed⟩ := invariant_formed.after (s := fresh failOn) ⟨atRest_start (filed_fresh failOn), formed_nil⟩
    history
  have hfiled : Filed _ _ := hrest.safe
  exact ⟨hfiled.numbers ▸ List.nodup_range, hformed⟩

end Session

end TensorGraph
