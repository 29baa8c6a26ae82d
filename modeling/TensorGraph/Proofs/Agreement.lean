/-
What a session says is bound and what its recorder stores are the same, and what can still go wrong.

Model: a fault of the engine is `Accounted` for if it is not about a buffer that is not there, and if it is a misfit
unless some primitive always fails: a payload of another kind or length than its tensor, or a copy between tensors
that differ in kind or length.

Main result: `bindings_agree_with_storage`.
-/
import TensorGraph.Proofs.Coupling
import TensorGraph.Proofs.Creation
import TensorGraph.Proofs.Scratch
import TensorGraph.Proofs.Transfer

namespace TensorGraph

/-! ## Live buffers -/

/-- live buffers counted by their numbers -/
theorem Recorder.liveCount_eq (r : Recorder) :
    r.liveCount = ((List.range r.buffers.size).filter fun id => (r.data? id).isSome).length := by
  have hlist : r.buffers.toList = (List.range r.buffers.size).map r.data? := by
    refine List.ext_getElem (by simp) fun i h₁ h₂ => ?_
    have hi : i < r.buffers.size := by simpa using h₁
    simp [data?, hi]
  rw [liveCount, ← Array.countP_toList, hlist, List.countP_map, List.countP_eq_length_filter]
  rfl

/-- if no other buffers are live, there are as many live buffers as handles -/
theorem Coupled.liveCount {failOn : Option String} {held : List BufferRef} {r : Recorder} (h : Coupled failOn held r)
    (hne : failOn ≠ some Primitive.release.name) : r.liveCount = held.length := by
  have hperm : ((List.range r.buffers.size).filter fun id => (r.data? id).isSome).Perm (held.map BufferRef.id) := by
    refine (List.perm_ext_iff_of_nodup (List.nodup_range.filter _) h.distinct).2 fun id => ?_
    rw [List.mem_filter, List.mem_range, List.mem_map]
    constructor
    · rintro ⟨-, hlive⟩
      exact h.complete hne id hlive
    · rintro ⟨t, ht, rfl⟩
      obtain ⟨p, hp, -⟩ := h.live t ht
      exact ⟨Recorder.lt_size_of_data? hp, by rw [hp]; rfl⟩
  rw [Recorder.liveCount_eq, hperm.length_eq, List.length_map]

/-! ## Model -/

/-- the kind and the number of elements of what a value stands for -/
def Session.extent? {σ τ : Type} [Handle τ] (s : Session σ τ) : Value → Option (ElementKind × Nat)
  | .identifier name => (s.bindings.find? name).map fun t => (Handle.kind t, Handle.volume t)
  | v => v.literal?.map fun l => (l.kind, 1)

theorem Session.extent?_of_bound {σ τ : Type} [Handle τ] {s : Session σ τ} {name : String} {t : τ}
    (h : s.bindings.find? name = some t) : s.extent? (.identifier name) = some (Handle.kind t, Handle.volume t) := by
  rw [extent?, h]
  rfl

/-- a payload that does not fit the tensor bound under its name -/
def MisfitStore {σ τ : Type} [Handle τ] (s : Session σ τ) (t : Tensor) : Prop :=
  ∃ p extent, t.data = some p ∧ s.extent? (.identifier t.name) = some extent ∧ (p.kind, p.length) ≠ extent

/-- a copy between two tensors that differ in kind or length -/
def MisfitCopy {σ τ : Type} [Handle τ] (s : Session σ τ) (o : Operator) (op : Operation) : Prop :=
  ∃ v w extent extent', o.transfer? op = some (v, w) ∧ s.extent? v = some extent ∧ s.extent? w = some extent' ∧
    extent ≠ extent'

/-- the misfits of a step, in which a graph is run on the tensors that are bound when the fault occurs -/
inductive Misfit (s : Session Recorder BufferRef) : Step → RunError → Prop
  | write {t : Tensor} {why : String} (h : MisfitStore s t) : Misfit s (.write t) (.engine .fill why)
  | perform {o : Operator} {op : Operation} {why : String} (h : MisfitCopy s o op) :
    Misfit s (.perform o op) (.engine .copy why)
  | materialize {options : RunOptions} {clock : Clock} {g : Graph} {key : String} {t : Tensor} {why : String}
    (ho : options.materialize = true) (ht : (key, t) ∈ g.tensors.entries)
    (h : MisfitStore (s.next (.run options clock g)) t) : Misfit s (.run options clock g) (.engine .fill why)
  | operation {options : RunOptions} {clock : Clock} {g : Graph} {index : Nat} {op : Operation} {r : Registration}
    {why : String} (hop : g.operations[index]? = some op) (hr : Operator.named? op.name = some r)
    (h : MisfitCopy (s.next (.run options clock g)) r.operator op) :
    Misfit s (.run options clock g) (.operation index op.name (.engine .copy why))

/-- whether a fault is about a buffer that is not there -/
def Fault.IsMissing : Fault → Bool
  | .released _ | .notLive _ => true
  | _ => false

/-- a fault that is not about a missing buffer, and about a misfit unless some primitive always fails -/
def Accounted (failOn : Option String) (misfit : RunError → Prop) (e : RunError) : Prop :=
  ∀ p why, e.root = .engine p why →
    (∃ f : Fault, f.IsMissing = false ∧ why = f.message) ∧ (failOn = none → misfit e)

/-! ## Faults -/

/-- the letter that the text of a fault begins with -/
def Fault.initial : Fault → Char
  | .injected _ => 'i'
  | .kindless _ => 'c'
  | .released _ => 'd'
  | .notLive _ => 't'
  | .misfit .. => 'c'
  | .incompatible .. => 'c'

theorem head?_append {a : String} {c : Char} (h : a.toList.head? = some c) (b : String) :
    (a ++ b).toList.head? = some c := by
  rw [String.toList_append, List.head?_append, h]
  rfl

theorem Fault.head?_message (f : Fault) : f.message.toList.head? = some f.initial := by
  cases f with
  | injected p => exact head?_append (head?_append (c := 'i') rfl _) _
  | kindless kind => exact head?_append (head?_append (c := 'c') rfl _) _
  | released id => exact head?_append (c := 'd') rfl _
  | notLive id => exact head?_append (head?_append (c := 't') rfl _) _
  | misfit id size kind givenSize givenKind =>
    unfold message
    iterate 9 refine head?_append (c := 'c') ?_ _
    rfl
  | incompatible x y => exact head?_append (head?_append (head?_append (c := 'c') rfl _) _) _

theorem Fault.isMissing_iff (f : Fault) : f.IsMissing = true ↔ f.initial = 'd' ∨ f.initial = 't' := by
  cases f <;> simp [IsMissing, initial]

/-- no text is both about a missing buffer and about anything else -/
theorem Fault.message_ne {f g : Fault} (hf : f.IsMissing = false) (hg : g.IsMissing = true) :
    f.message ≠ g.message := by
  intro h
  have hinitial : f.initial = g.initial := by
    have hhead := f.head?_message
    rw [h, g.head?_message] at hhead
    exact (Option.some.inj hhead).symm
  rw [g.isMissing_iff, ← hinitial, ← f.isMissing_iff, hf] at hg
  cases hg

namespace Accounted

variable {failOn : Option String} {misfit misfit' : RunError → Prop} {e : RunError}

theorem mono (h : Accounted failOn misfit e) (hm : misfit e → misfit' e) : Accounted failOn misfit' e := by
  intro p why hroot
  obtain ⟨hf, hnone⟩ := h p why hroot
  exact ⟨hf, fun hno => hm (hnone hno)⟩

theorem of_complaint (h : e.IsComplaint) : Accounted failOn misfit e := by
  intro p why hroot
  cases e with
  | malformedOperand operation operand reason => cases hroot
  | unsupportedOperation operation reason => cases hroot
  | unsupportedKind subject kind => cases hroot
  | _ => cases h

theorem unboundTensor (name : String) : Accounted failOn misfit (.unboundTensor name) := nofun

/-- a failure that was asked for -/
theorem injected {r : Recorder} {p : Primitive} (hr : r.Refuses p) (hfail : r.failOn = failOn) :
    Accounted failOn misfit (.engine p (Fault.injected p).message) := by
  intro p' why hroot
  cases hroot
  refine ⟨⟨.injected p, rfl, rfl⟩, fun hno => ?_⟩
  rw [Recorder.Refuses, hfail, hno] at hr
  cases hr

theorem of_fault {p : Primitive} {f : Fault} (hf : f.IsMissing = false) (hm : misfit (.engine p f.message)) :
    Accounted failOn misfit (.engine p f.message) := by
  intro p' why hroot
  cases hroot
  exact ⟨⟨f, hf, rfl⟩, fun _ => hm⟩

end Accounted

namespace Session

variable {failOn : Option String} {s : Session Recorder BufferRef} {e : RunError}

/-- between two steps of a session on a recorder -/
abbrev Rests (failOn : Option String) (s : Session Recorder BufferRef) : Prop := AtRest (Recorder.custody failOn) s

theorem Rests.coupled (h : Rests failOn s) : Coupled failOn s.held s.engine := h.safe

/-- what is bound is live -/
theorem Rests.live (h : Rests failOn s) {name : String} {t : BufferRef} (ht : s.bindings.find? name = some t) :
    ∃ p, s.engine.data? t.id = some p ∧ p.kind = t.kind ∧ p.length = volume t.shape :=
  h.coupled.live t (List.mem_append_left _ (NameMap.mem_values_of_find? ht))

theorem Rests.lt_size (h : Rests failOn s) {t : BufferRef} (ht : t ∈ s.bindings.values) :
    t.id < s.engine.buffers.size := by
  obtain ⟨p, hp, -⟩ := h.coupled.live t (List.mem_append_left _ ht)
  exact Recorder.lt_size_of_data? hp

/-- nothing fails that was not asked to -/
theorem Rests.serves (h : Rests none s) (p : Primitive) : ¬ s.engine.Refuses p := by
  intro hr
  rw [Recorder.Refuses, h.coupled.failOn_eq] at hr
  cases hr

theorem accounted_bindTensor (h : Rests failOn s) {t : Tensor} (he : fault? (bindTensor t s) = some e) :
    Accounted failOn (fun _ => False) e := by
  rcases bindTensor_cases t s with ⟨-, hb⟩ | ⟨-, -, hb⟩ | ⟨-, hkind, ⟨why, r, hal, hb⟩ | ⟨u, r, -, hb⟩⟩
  · rw [hb] at he
    cases he
    exact nofun
  · rw [hb] at he
    cases he
    exact nofun
  · rw [hb] at he
    cases he
    rw [Recorder.engine_allocate, Recorder.inWords_apply] at hal
    by_cases hr : s.engine.Refuses .allocate
    · rw [Recorder.allocate_refused hr] at hal
      cases hal
      exact Accounted.injected hr h.coupled.failOn_eq
    · obtain ⟨zeros, hz, -⟩ := Recorder.exists_zeros hkind (volume t.shape)
      rw [Recorder.allocate_apply hr hz] at hal
      cases hal
  · rw [hb] at he
    cases he

theorem accounted_store (h : Rests failOn s) {t : Tensor} (he : fault? (store t s) = some e) :
    Accounted failOn (fun e => (∃ why, e = .engine .fill why) ∧ MisfitStore s t) e := by
  rw [store_apply] at he
  cases hdata : t.data with
  | none =>
    rw [hdata] at he
    cases he
    exact Accounted.of_complaint trivial
  | some p =>
    rw [hdata] at he
    cases hf : s.bindings.find? t.name with
    | none =>
      rw [hf] at he
      cases he
      exact Accounted.unboundTensor _
    | some u =>
      rw [hf] at he
      dsimp only at he
      rw [fault?_invoke, Recorder.engine_fill, Recorder.inWords_apply] at he
      cases hfill : Recorder.fill u p s.engine with
      | ok _ r => rw [hfill] at he; cases he
      | error f r =>
        rw [hfill] at he
        cases he
        obtain ⟨old, hold, hkind, hlen⟩ := h.live hf
        cases Recorder.blocks_fill hfill with
        | injected hr => exact Accounted.injected hr h.coupled.failOn_eq
        | notLive ht hnone =>
          rw [List.mem_singleton.1 ht, hold] at hnone
          cases hnone
        | misfit hold' hfits =>
          cases hold.symm.trans hold'
          refine Accounted.of_fault rfl ⟨⟨_, rfl⟩, p, _, hdata, extent?_of_bound hf, fun heq => ?_⟩
          have hkinds := hkind.trans (congrArg Prod.fst heq).symm
          have hlens := hlen.trans (congrArg Prod.snd heq).symm
          exact absurd (Recorder.fits_iff.2 ⟨hkinds, hlens⟩) (Bool.eq_false_iff.1 hfits)

theorem accounted_load (h : Rests failOn s) {t : Tensor} (he : fault? (load t s) = some e) :
    Accounted failOn (fun _ => False) e := by
  rw [load_apply] at he
  cases hf : s.bindings.find? t.name with
  | none =>
    rw [hf] at he
    cases he
    exact Accounted.unboundTensor _
  | some u =>
    rw [hf] at he
    dsimp only at he
    rw [fault?_mapResult, fault?_invoke, Recorder.engine_read, Recorder.inWords_apply] at he
    obtain ⟨old, hold, -⟩ := h.live hf
    by_cases hr : s.engine.Refuses .read
    · rw [show Recorder.read u s.engine = _ from Recorder.attempt_of_refuses hr _] at he
      cases he
      exact Accounted.injected hr h.coupled.failOn_eq
    · rw [Recorder.read_apply hr hold] at he
      cases he

/-! ## Faults of operations -/

/-- an operand has the extent of its value -/
theorem extent?_of_standsFor {σ τ : Type} [Handle τ] {s : Session σ τ} {seen : List Literal} {v : Value}
    {x : Operand τ} (h : x.StandsFor s.bindings.find? seen v) :
    s.extent? v = some (Handle.kind x, Handle.volume x) := by
  cases x with
  | bound t =>
    obtain ⟨name, rfl, ht⟩ := h
    exact extent?_of_bound ht
  | literal number l =>
    have hl := h.1
    cases v with
    | identifier name => cases hl
    | _ => exact (congrArg (Option.map fun l => (l.kind, 1)) hl)

/-- once the literals are stored, every operand that was found has contents of its kind and size -/
theorem contents_of_found (h : Rests failOn s) {ls : List Literal} {x : Operand BufferRef}
    (hx : x.IsFound s.bindings.find? ls) :
    ∃ p, (s.engine.storing ls).data? (x.ref s.engine.buffers.size).id = some p ∧ p.kind = Handle.kind x ∧
      p.length = Handle.volume x := by
  cases x with
  | bound t =>
    obtain ⟨name, ht⟩ := hx
    obtain ⟨p, hp, hkind, hlen⟩ := h.live ht
    exact ⟨p, Recorder.data?_storing_of_some ls hp, hkind, hlen⟩
  | literal number l =>
    refine ⟨l.toPayload, ?_, l.kind_toPayload, l.length_toPayload⟩
    rw [Recorder.data?_storing, Operand.ref, if_neg (by simp), Nat.add_sub_cancel_left, hx]
    rfl

/-- what is decided only fails to copy, and only between operands that differ -/
theorem accounted_issue (h : Rests failOn s) {o : Operator} {op : Operation} {i : Instruction (Operand BufferRef)}
    (hi : (o.decision s.bindings.find? op).outcome = .ok i) {p : Primitive} {f : Fault}
    (hb : (s.engine.storing (o.literals op)).Blocks (i.map (Operand.ref s.engine.buffers.size)) p f) :
    Accounted failOn (fun e => (∃ why, e = .engine .copy why) ∧ MisfitCopy s o op) (.engine p f.message) := by
  have hcontents : ∀ x ∈ i.handles, ∃ q,
      (s.engine.storing (o.literals op)).data? (x.ref s.engine.buffers.size).id = some q ∧ q.kind = Handle.kind x ∧
        q.length = Handle.volume x := by
    intro x hx
    have hfound := found_of_decision hi x hx
    rw [literals_of_decision hi] at hfound
    exact contents_of_found h hfound
  have hrequest := request_of_decision hi
  generalize hj : i.map (Operand.ref s.engine.buffers.size) = j at hb
  cases hb with
  | injected hr =>
    exact Accounted.injected hr (((s.engine.failOn_storing _).trans h.coupled.failOn_eq))
  | notLive ht hnone =>
    rw [← hj, Instruction.handles_map] at ht
    obtain ⟨x, hx, rfl⟩ := List.mem_map.1 ht
    obtain ⟨q, hq, -⟩ := hcontents x hx
    rw [hq] at hnone
    cases hnone
  | misfit hold hfits =>
    rcases hrequest with ⟨-, rfl⟩ | ⟨-, ⟨-⟩⟩ | ⟨-, v, w, x, y, -, rfl, -⟩ | ⟨-, w, y, p, -, rfl, -, hp⟩
    · cases hj
    · cases hj
    · cases hj
    · cases hj
      obtain ⟨q, hq, hkind, hlen⟩ := hcontents y List.mem_cons_self
      obtain ⟨hpkind, hplen⟩ := kind_of_constantData? hp
      cases hq.symm.trans hold
      exact absurd (Recorder.fits_iff.2 ⟨hkind.trans hpkind.symm, hlen.trans hplen.symm⟩) (Bool.eq_false_iff.1 hfits)
  | incompatible hsource htarget hfits =>
    rcases hrequest with ⟨-, rfl⟩ | ⟨-, ⟨-⟩⟩ | ⟨-, v, w, x, y, htransfer, rfl, hv, hw⟩ | ⟨-, w, y, p, -, rfl, -, -⟩
    · cases hj
    · cases hj
    · cases hj
      obtain ⟨q, hq, hqkind, hqlen⟩ := hcontents x List.mem_cons_self
      obtain ⟨q', hq', hqkind', hqlen'⟩ := hcontents y (by simp [Instruction.handles])
      cases hq.symm.trans hsource
      cases hq'.symm.trans htarget
      refine Accounted.of_fault rfl ⟨⟨_, rfl⟩, v, w, _, _, htransfer, extent?_of_standsFor hv, extent?_of_standsFor hw,
        fun heq => ?_⟩
      have hkinds := hqkind.trans ((congrArg Prod.fst heq).trans hqkind'.symm)
      have hlens := hqlen.trans ((congrArg Prod.snd heq).trans hqlen'.symm)
      exact absurd (Recorder.fits_iff.2 ⟨hkinds, hlens⟩) (Bool.eq_false_iff.1 hfits)
    · cases hj

/-- an operation complains, misses a tensor, or fails to copy between operands that differ -/
theorem accounted_dispatch (h : Rests failOn s) {o : Operator} {op : Operation}
    (he : fault? (dispatch o op s) = some e) :
    Accounted failOn (fun e => (∃ why, e = .engine .copy why) ∧ MisfitCopy s o op) e := by
  rcases fault_of_dispatch he with hdecision | ⟨p, hr, rfl⟩ | ⟨i, hi, hissued⟩
  · rcases fault_of_decision hdecision with hcomplaint | ⟨name, -, rfl⟩
    · exact Accounted.of_complaint hcomplaint
    · exact Accounted.unboundTensor name
  · exact Accounted.injected hr h.coupled.failOn_eq
  · have hnamed := (isNamed_of_decision hi).map (Operand.ref s.engine.buffers.size)
    rcases issue_cases hnamed (s.storing (o.literals op)) with
      ⟨-, hissue⟩ | ⟨-, p, f, hblocks, hissue⟩ <;> rw [hissue] at hissued <;> cases hissued
    exact accounted_issue h hi hblocks

/-- releasing held tensors does not fail by itself -/
theorem releaseAll_of_coupled {held : List BufferRef} (h : Coupled failOn held s.engine)
    (hne : failOn ≠ some Primitive.release.name) {ts : List BufferRef} (hts : ts.Sublist held) :
    fault? (releaseAll ts s) = none := by
  have hr : ¬ s.engine.Refuses .release := fun hr => hne (h.failOn_eq.symm.trans hr)
  rw [releaseAll_of_live hr (fun t ht => ?_) (h.distinct.sublist (hts.map _))]
  · rfl
  · obtain ⟨p, hp, -⟩ := h.live t (hts.subset ht)
    rw [hp]
    rfl

/-- the scratch tensors of an operation are released without a fault -/
theorem fault?_releaseScratch (h : Rests failOn s) (hne : failOn ≠ some Primitive.release.name) (o : Operator)
    (op : Operation) : fault? (releaseScratch (reached (dispatch o op s))) = none :=
  have hafter : Coupled failOn (reached (dispatch o op s)).held (reached (dispatch o op s)).engine :=
    (dispatch_keeps (Recorder.custody failOn) o op h.safe).1
  releaseAll_of_coupled (s := { reached (dispatch o op s) with scratch := [] }) hafter hne
    (List.sublist_append_right _ _)

/-- so are all tensors -/
theorem fault?_clear (h : Rests failOn s) (hne : failOn ≠ some Primitive.release.name) : fault? (clear s) = none :=
  releaseAll_of_coupled (s := { s with
    bindings := .empty, reserved := s.reserved ++ s.bindings.keys, scratch := [] }) h.coupled hne
    (List.Sublist.refl _)

theorem accounted_perform (h : Rests failOn s) (hne : failOn ≠ some Primitive.release.name) {o : Operator}
    {op : Operation} (he : fault? (perform o op s) = some e) :
    Accounted failOn (fun e => (∃ why, e = .engine .copy why) ∧ MisfitCopy s o op) e := by
  unfold perform at he
  split at he
  · rw [fault?_both, fault?_releaseScratch h hne o op, Option.or_none] at he
    exact accounted_dispatch h he
  · cases he
    exact Accounted.of_complaint trivial

/-! ## Faults of runs -/

theorem extent?_congr {s' : Session Recorder BufferRef} (hb : s'.bindings = s.bindings) (v : Value) :
    s'.extent? v = s.extent? v := by
  cases v with
  | identifier name => rw [extent?, extent?, hb]
  | _ => rfl

theorem misfitStore_congr {s' : Session Recorder BufferRef} (hb : s'.bindings = s.bindings) {t : Tensor}
    (h : MisfitStore s t) : MisfitStore s' t := by
  obtain ⟨p, extent, hp, hextent, hne⟩ := h
  exact ⟨p, extent, hp, (extent?_congr hb _).trans hextent, hne⟩

theorem misfitCopy_congr {s' : Session Recorder BufferRef} (hb : s'.bindings = s.bindings) {o : Operator}
    {op : Operation} (h : MisfitCopy s o op) : MisfitCopy s' o op := by
  obtain ⟨v, w, extent, extent', ht, hv, hw, hne⟩ := h
  exact ⟨v, w, extent, extent', ht, (extent?_congr hb v).trans hv, (extent?_congr hb w).trans hw, hne⟩

theorem accounted_prepare (h : Rests failOn s) {key : String} {t : Tensor} (he : fault? (prepare key t s) = some e) :
    Accounted failOn (fun e => (∃ why, e = .engine .fill why) ∧ MisfitStore (reached (prepare key t s)) t) e := by
  unfold prepare at he ⊢
  split at he
  · cases he
  · rename_i hbound
    rw [if_neg hbound]
    have hbind := bindTensor_keeps (Recorder.custody failOn) t s h
    rw [bind_apply] at he ⊢
    cases hb : bindTensor t s with
    | error e' s₁ =>
      rw [hb] at he
      cases he
      exact (accounted_bindTensor h (congrArg fault? hb)).mono False.elim
    | ok u s₁ =>
      rw [hb] at he hbind
      dsimp only at he ⊢
      split at he
      · rename_i hdata
        rw [if_pos hdata]
        exact (accounted_store hbind he).mono fun hm => ⟨hm.1, misfitStore_congr (store_names t s₁).1 hm.2⟩
      · cases he

theorem accounted_materialize (h : Rests failOn s) {entries : List (String × Tensor)}
    (he : fault? (materialize entries s) = some e) :
    Accounted failOn (fun e => (∃ why, e = .engine .fill why) ∧
      ∃ key t, (key, t) ∈ entries ∧ MisfitStore (reached (materialize entries s)) t) e := by
  have hinv := invariant_atRest (Recorder.custody failOn)
  induction entries generalizing s with
  | nil => cases he
  | cons entry rest ih =>
    obtain ⟨key, t⟩ := entry
    have hfirst := keeps_prepare hinv.bindTensor hinv.store key t s h
    unfold materialize at he ⊢
    rw [bind_apply] at he ⊢
    cases hp : prepare key t s with
    | error e' s₁ =>
      rw [hp] at he
      cases he
      have hacc := accounted_prepare h (congrArg fault? hp)
      rw [hp] at hacc
      exact hacc.mono fun hm => ⟨hm.1, key, t, List.mem_cons_self, hm.2⟩
    | ok u s₁ =>
      rw [hp] at he hfirst
      refine (ih hfirst he).mono fun hm => ?_
      obtain ⟨hwhy, key', t', hmem, hmisfit⟩ := hm
      exact ⟨hwhy, key', t', List.mem_cons_of_mem _ hmem, hmisfit⟩

/-- an operation of a run is as accounted for as the operation by itself -/
theorem accounted_runOperation (h : Rests failOn s) (hne : failOn ≠ some Primitive.release.name) {index : Nat}
    {op : Operation} (he : fault? (runOperation index op s) = some e) :
    Accounted failOn (fun e => ∃ r why, Operator.named? op.name = some r ∧
      e = .operation index op.name (.engine .copy why) ∧ MisfitCopy s r.operator op) e := by
  unfold runOperation performNamed at he
  cases hnamed : Operator.named? op.name with
  | none =>
    rw [hnamed] at he
    cases he
    exact nofun
  | some r =>
    rw [hnamed] at he
    dsimp only at he
    cases hp : perform r.operator op s with
    | ok u s₁ =>
      rw [hp] at he
      cases he
    | error e₀ s₁ =>
      rw [hp] at he
      cases he
      intro p why hroot
      obtain ⟨hf, hmisfit⟩ := accounted_perform h hne (congrArg fault? hp) p why hroot
      refine ⟨hf, fun hno => ?_⟩
      obtain ⟨⟨why', rfl⟩, hcopy⟩ := hmisfit hno
      exact ⟨r, why', rfl, rfl, hcopy⟩

theorem bindings_runOperations (options : RunOptions) (clock : Clock) (index : Nat) (figures : RunStatistics)
    (ops : List Operation) (s : Session Recorder BufferRef) :
    (reached (runOperations options clock index figures ops s)).bindings = s.bindings :=
  keeps_runOperations (P := fun s' => s'.bindings = s.bindings)
    (fun o op s' hs' => (perform_names o op s').1.trans hs') options clock index figures ops s rfl

theorem accounted_runOperations (h : Rests failOn s) (hne : failOn ≠ some Primitive.release.name) {options : RunOptions}
    {clock : Clock} {index : Nat} {figures : RunStatistics} {ops : List Operation}
    (he : fault? (runOperations options clock index figures ops s) = some e) :
    Accounted failOn (fun e => ∃ n op r why, ops[n]? = some op ∧ Operator.named? op.name = some r ∧
      e = .operation (index + n) op.name (.engine .copy why) ∧ MisfitCopy s r.operator op) e := by
  have hperform := (invariant_atRest (Recorder.custody failOn)).perform
  induction ops generalizing s index figures with
  | nil => cases he
  | cons op rest ih =>
    have hfirst := keeps_runOperation hperform index op s h
    have hnames : (reached (runOperation index op s)).bindings = s.bindings :=
      keeps_runOperation (P := fun s' => s'.bindings = s.bindings)
        (fun o op s' hs' => (perform_names o op s').1.trans hs') index op s rfl
    unfold runOperations at he
    rw [bind_apply] at he
    cases hr : runOperation index op s with
    | ok u s₁ =>
      rw [hr] at he hfirst hnames
      refine (ih hfirst he).mono fun hm => ?_
      obtain ⟨n, op', r, why, hop, hnamed, rfl, hmisfit⟩ := hm
      refine ⟨n + 1, op', r, why, hop, hnamed, ?_, misfitCopy_congr hnames.symm hmisfit⟩
      rw [Nat.add_assoc, Nat.add_comm 1 n]
    | error e' s₁ =>
      rw [hr] at he
      cases he
      refine (accounted_runOperation h hne (congrArg fault? hr)).mono fun hm => ?_
      obtain ⟨r, why, hnamed, rfl, hmisfit⟩ := hm
      exact ⟨0, op, r, why, rfl, hnamed, rfl, hmisfit⟩

theorem accounted_runGraph (h : Rests failOn s) (hne : failOn ≠ some Primitive.release.name) {options : RunOptions}
    {clock : Clock} {g : Graph} (he : fault? (runGraph options clock g s) = some e) :
    Accounted failOn (Misfit s (.run options clock g)) e := by
  have hnext : s.next (.run options clock g) = reached (runGraph options clock g s) := by
    rw [next_eq_reached, take_run, reached_mapResult]
    rfl
  have hrest := (invariant_atRest (Recorder.custody failOn)).prepareAll options g s h
  rw [runGraph_apply] at he hnext
  cases hp : prepareAll options g s with
  | error e' s₁ =>
    rw [hp] at he hnext
    cases he
    unfold prepareAll at hp
    split at hp
    · rename_i ho
      have hacc := accounted_materialize h (congrArg fault? hp)
      rw [hp] at hacc
      refine hacc.mono fun hm => ?_
      obtain ⟨⟨why, rfl⟩, key, t, hmem, hmisfit⟩ := hm
      exact .materialize ho hmem (hnext ▸ hmisfit)
    · cases hp
  | ok u s₁ =>
    rw [hp] at he hnext hrest
    dsimp only at he hnext
    rw [fault?_mapResult] at he
    rw [reached_mapResult] at hnext
    refine (accounted_runOperations hrest hne he).mono fun hm => ?_
    obtain ⟨n, op, r, why, hop, hnamed, rfl, hmisfit⟩ := hm
    rw [Nat.zero_add]
    refine .operation hop hnamed (misfitCopy_congr ?_ hmisfit)
    rw [hnext]
    exact bindings_runOperations ..

theorem accounted_take (h : Rests failOn s) (hne : failOn ≠ some Primitive.release.name) {step : Step}
    (he : fault? (take step s) = some e) : Accounted failOn (Misfit s step) e := by
  cases step with
  | create t =>
    rw [take_create, fault?_mapResult] at he
    exact (accounted_bindTensor h he).mono False.elim
  | write t =>
    rw [take_write, fault?_mapResult] at he
    refine (accounted_store h he).mono fun hm => ?_
    obtain ⟨⟨why, rfl⟩, hmisfit⟩ := hm
    exact .write hmisfit
  | read t =>
    rw [take_read, fault?_mapResult] at he
    exact (accounted_load h he).mono False.elim
  | perform o op =>
    rw [take_perform, fault?_mapResult] at he
    refine (accounted_perform h hne he).mono fun hm => ?_
    obtain ⟨⟨why, rfl⟩, hmisfit⟩ := hm
    exact .perform hmisfit
  | run options clock g =>
    rw [take_run, fault?_mapResult] at he
    exact accounted_runGraph h hne he
  | clear =>
    rw [take_clear, fault?_mapResult, fault?_clear h hne] at he
    cases he

end Session

/-- the handles of a recorder show what was asked for -/
theorem Recorder.honestHandles : Session.HonestHandles Recorder BufferRef := by
  intro kind shape r r' t h
  rw [engine_allocate, inWords_apply] at h
  cases ha : allocate kind shape r with
  | error f r'' => rw [ha] at h; cases h
  | ok u r'' =>
    rw [ha] at h
    cases h
    obtain ⟨-, rfl, -⟩ := allocate_ok ha
    exact ⟨rfl, rfl⟩

open Session in
/-- **Bindings agree with storage.** Take any session on a recorder, whatever its history and whichever primitive but
releasing always fails. There are no scratch tensors; the live buffers are those of the bound handles; different names
have different buffers, so there are as many live buffers as bound names. Under each name one tensor was created in all
the history at most, and what is bound to the name is a live buffer of the kind and the number of elements of that
tensor. Every request in the log named only buffers that were live when it was made.

Whatever is done next, no fault is about a buffer that is not there. If no primitive always fails, the faults of the
engine are misfits: a payload that does not fit its tensor, or a copy between tensors that differ in kind or length. -/
theorem bindings_agree_with_storage (failOn : Option String) (hne : failOn ≠ some Primitive.release.name)
    (history : List Step) :
    let s := (Session.fresh failOn).after history
    let created := createdAfter (Session.fresh failOn) history
    s.scratch = [] ∧
      (∀ id, (s.engine.data? id).isSome ↔ ∃ name h, s.bindings.find? name = some h ∧ h.id = id) ∧
      (∀ name name' h h', s.bindings.find? name = some h → s.bindings.find? name' = some h' → h.id = h'.id →
        name = name') ∧
      s.engine.liveCount = s.bindings.size ∧
      (created.map Tensor.name).Nodup ∧
      (∀ name h, s.bindings.find? name = some h → ∃ t ∈ created, t.name = name ∧
        ∃ p, s.engine.data? h.id = some p ∧ p.kind = t.kind ∧ p.length = volume t.shape) ∧
      Orderly s.engine.log.toList ∧
      ∀ step e, fault? (take step s) = some e →
        (∀ (p : Primitive) (f : Fault), f.IsMissing = true → e.root ≠ .engine p f.message) ∧
        (failOn = none → ∀ p why, e.root = .engine p why → Misfit s step e) := by
  intro s created
  have hrest : Rests failOn s := after_atRest (Recorder.custody failOn) (coupled_fresh failOn) history
  have hcreated : Registered created s := registered_after Recorder.honestHandles _ history
  have hheld : s.held = s.bindings.values := by
    unfold held
    rw [hrest.scratch, List.append_nil]
  refine ⟨hrest.scratch, fun id => ⟨fun hid => ?_, ?_⟩, fun name name' h h' hh hh' hid => ?_, ?_, hcreated.distinct,
    fun name h hh => ?_, hrest.coupled.orderly, fun step e he => ?_⟩
  · obtain ⟨t, ht, rfl⟩ := hrest.coupled.complete hne id hid
    rw [hheld] at ht
    obtain ⟨⟨name, t⟩, hentry, rfl⟩ := List.mem_map.1 ht
    exact ⟨name, t, NameMap.mem_entries_iff.1 hentry, rfl⟩
  · rintro ⟨name, h, hh, rfl⟩
    obtain ⟨p, hp, -⟩ := hrest.live hh
    rw [hp]
    rfl
  · have hdistinct := hrest.coupled.distinct
    rw [hheld] at hdistinct
    exact NameMap.eq_of_nodup_values hdistinct hh hh' hid
  · rw [hrest.coupled.liveCount hne, hheld]
    exact List.length_map _
  · obtain ⟨t, ht, hname, hkind, hshape⟩ := hcreated.faithful name h hh
    obtain ⟨p, hp, hpkind, hplen⟩ := hrest.live hh
    exact ⟨t, ht, hname, p, hp, hpkind.trans hkind, hplen.trans (congrArg volume hshape)⟩
  · have hacc := accounted_take hrest hne he
    refine ⟨fun p f hf hroot => ?_, fun hno p why hroot => (hacc p why hroot).2 hno⟩
    obtain ⟨⟨g, hg, hmessage⟩, -⟩ := hacc p f.message hroot
    exact Fault.message_ne hg hf hmessage.symm

/-- a recorder that fails to fill, after a tensor was created and could not be written -/
theorem bindings_agree_with_failing_fill :
    let history : List Step := [.create ⟨"x", .integer, [2], none⟩, .write ⟨"x", .integer, [2], some (.integer [1, 2])⟩]
    let s := (Session.fresh (some Primitive.fill.name)).after history
    some Primitive.fill.name ≠ some Primitive.release.name ∧ s.bindings.size = 1 ∧
      s.engine.liveCount = s.bindings.size :=
  ⟨by decide, by decide +kernel, (bindings_agree_with_storage _ (by decide) _).2.2.2.1⟩

end TensorGraph
