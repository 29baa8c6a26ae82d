/-
A scalar tensor that stands in for a literal.

Model: a literal operand has a scratch tensor of its own; a bound scalar tensor that holds the same (`Session.Holds`)
may take its place. No scratch tensor is then needed for it, so the tensor stands in for one buffer number, and the
numbers after it move down by one (`insteadOf`). Through this change of numbers a recorder that stored one literal less
holds the same everywhere, so it answers every request alike.

Main result: `perform_instead_of_literal`.
-/
import TensorGraph.Proofs.Substitution
import TensorGraph.Proofs.Tandem

namespace TensorGraph

/-! ## Model -/

/-- a name bound to a scalar tensor that holds a literal as its one element -/
structure Session.Holds (s : Session Recorder BufferRef) (name : String) (l : Literal) (t : BufferRef) : Prop where
  bound : s.bindings.find? name = some t
  kind : t.kind = l.kind
  shape : t.shape = []
  contents : ∃ p, s.engine.data? t.id = some p ∧ p.elements = [l]

/-- the number of a buffer once buffer `other` stands in for buffer `number`, which is left out -/
def insteadOf (number other id : Nat) : Nat := if id = number then other else if number < id then id - 1 else id

/-- the operand whose contents an instruction changes -/
def Instruction.target? {τ : Type} : Instruction τ → Option τ
  | .fill target _ => some target
  | .copy _ target => some target
  | .idle => none
  | .compute .. => none

/-- the key of the output that an operator stores to -/
def Operator.targetKey : Operator → String
  | .update => "result"
  | _ => "output"

/-! ## Numbers -/

section

variable {number other id : Nat}

theorem insteadOf_self : insteadOf number other number = other := if_pos rfl

theorem insteadOf_of_lt (h : id < number) : insteadOf number other id = id := by
  rw [insteadOf, if_neg (Nat.ne_of_lt h), if_neg (Nat.not_lt.2 (Nat.le_of_lt h))]

theorem insteadOf_of_gt (h : number < id) : insteadOf number other id = id - 1 := by
  rw [insteadOf, if_neg (Nat.ne_of_gt h), if_pos h]

/-- no other buffer gets the number of an earlier one -/
theorem insteadOf_eq_iff {j : Nat} (hj : j < number) (hid : id ≠ number) : insteadOf number other id = j ↔ id = j := by
  rcases Nat.lt_or_gt_of_ne hid with h | h
  · rw [insteadOf_of_lt h]
  · rw [insteadOf_of_gt h]
    omega

end

/-- a list around the item of a number, and without it -/
theorem exists_split_of_getElem? {α : Type} {l : List α} {n : Nat} {x : α} (h : l[n]? = some x) :
    ∃ before after, l = before ++ x :: after ∧ before.length = n ∧ l.eraseIdx n = before ++ after := by
  obtain ⟨hlt, rfl⟩ := List.getElem?_eq_some_iff.1 h
  refine ⟨l.take n, l.drop (n + 1), ?_, List.length_take_of_le (Nat.le_of_lt hlt), List.eraseIdx_eq_take_drop_succ ..⟩
  rw [List.getElem_cons_drop, List.take_append_drop]

theorem eq_none_iff_of_rel {α β : Type} {R : α → β → Prop} {x : Option α} {y : Option β} (h : Option.Rel R x y) :
    y = none ↔ x = none := by
  cases h <;> simp

/-! ## Recorders -/

namespace Instruction

variable {τ υ : Type}

theorem map_congr {f g : τ → υ} {i : Instruction τ} (h : ∀ x ∈ i.handles, f x = g x) : i.map f = i.map g := by
  cases i with
  | compute name k => cases k <;> simp_all [map, handles, Kernel.map, Kernel.handles]
  | _ => simp_all [map, handles]

theorem target?_map (f : τ → υ) (i : Instruction τ) : (i.map f).target? = i.target?.map f := by
  cases i <;> rfl

theorem mem_handles_of_target? {i : Instruction τ} {x : τ} (h : i.target? = some x) : x ∈ i.handles := by
  cases i <;> cases h <;> simp [handles]

theorem calls_renumber (f : Nat → Nat) (i : Instruction BufferRef) :
    (i.map (BufferRef.renumber f)).calls = i.calls.map (Call.renumber f) := by
  cases i with
  | compute name k =>
    rw [map, calls, calls, Kernel.map_map, List.map_singleton, Call.renumber, Kernel.map_map]
    rfl
  | _ => rfl

end Instruction

namespace Recorder

variable {α : Type} {r r' : Recorder} {f : Nat → Nat}

theorem fault?_inWords (act : EStateM Fault Recorder α) (r : Recorder) :
    fault? (inWords act r) = (fault? (act r)).map Fault.message := by
  rw [inWords_apply]
  cases act r <;> rfl

section

variable (hfail : r'.failOn = r.failOn) (hdata : ∀ id, r'.data? (f id) = r.data? id)

include hfail hdata

/-- recorders that hold the same under other numbers fail to fill alike -/
theorem fault?_fill_renumber (t : BufferRef) (p : Payload) :
    fault? (fill (t.renumber f) p r') = (fault? (fill t p r)).map (Fault.renumber f) := by
  have ht : r'.data? (t.renumber f).id = r.data? t.id := hdata t.id
  simp only [fill, attempt, hfail, ht]
  split
  · rfl
  · cases r.data? t.id with
    | none => rfl
    | some old =>
      dsimp only
      split <;> rfl

theorem fault?_copy_renumber (x y : BufferRef) :
    fault? (copy (x.renumber f) (y.renumber f) r') = (fault? (copy x y r)).map (Fault.renumber f) := by
  have hx : r'.data? (x.renumber f).id = r.data? x.id := hdata x.id
  have hy : r'.data? (y.renumber f).id = r.data? y.id := hdata y.id
  simp only [copy, attempt, hfail, hx, hy]
  split
  · rfl
  · cases r.data? x.id with
    | none => rfl
    | some source =>
      cases r.data? y.id with
      | none => rfl
      | some target =>
        dsimp only
        split <;> rfl

omit hdata in
theorem fault?_compute_renumber (k : Kernel BufferRef) :
    fault? (compute (k.map (BufferRef.renumber f)) r') = (fault? (compute k r)).map (Fault.renumber f) := by
  simp only [compute_eq_attempt, attempt, hfail, Kernel.primitive_map]
  split <;> rfl

end

/-- one literal less is stored, and a buffer that holds the same stands in for it -/
theorem data?_storing_insteadOf {ls : List Literal} {number other : Nat} {l : Literal} (hl : ls[number]? = some l)
    (hother : r.data? other = some l.toPayload) (id : Nat) :
    (r.storing (ls.eraseIdx number)).data? (insteadOf (r.buffers.size + number) other id) =
      (r.storing ls).data? id := by
  rcases Nat.lt_trichotomy id (r.buffers.size + number) with hlt | rfl | hgt
  · rw [insteadOf_of_lt hlt, data?_storing, data?_storing]
    split_ifs with h
    · rfl
    · rw [List.getElem?_eraseIdx_of_lt (by omega)]
  · rw [insteadOf_self, data?_storing_of_some _ hother, data?_storing, if_neg (by omega), Nat.add_sub_cancel_left, hl]
    rfl
  · rw [insteadOf_of_gt hgt, data?_storing, data?_storing, if_neg (by omega), if_neg (by omega),
      List.getElem?_eraseIdx_of_ge (by omega)]
    congr 2
    omega

/-- an instruction whose target is not the buffer that is left out stores the same in all earlier buffers -/
theorem data?_following_insteadOf {number other : Nat} {i : Instruction BufferRef}
    (hdata : ∀ id, r'.data? (insteadOf number other id) = r.data? id) (hi : r.Accepts i)
    (htarget : ∀ u, i.target? = some u → u.id ≠ number) {id : Nat} (hid : id < number) :
    (r'.following (i.map (BufferRef.renumber (insteadOf number other)))).data? id = (r.following i).data? id := by
  have hold : r'.data? id = r.data? id := by rw [← hdata id, insteadOf_of_lt hid]
  cases i with
  | idle => exact hold
  | compute name k => exact hold
  | fill u p =>
    obtain ⟨-, old, hu, -⟩ := hi
    have hu' : r'.data? (u.renumber (insteadOf number other)).id = some old := (hdata u.id).trans hu
    rw [following, Instruction.map, following, data?_setting_of_some hu, data?_setting_of_some hu', hold,
      BufferRef.renumber]
    simp only [insteadOf_eq_iff hid (htarget u rfl)]
  | copy x u =>
    obtain ⟨-, source, target, hx, hu, -⟩ := hi
    have hx' : r'.data? (x.renumber (insteadOf number other)).id = r.data? x.id := hdata x.id
    have hu' : r'.data? (u.renumber (insteadOf number other)).id = some target := (hdata u.id).trans hu
    rw [following, Instruction.map, following, data?_setting_of_some hu, data?_setting_of_some hu', hold, hx',
      BufferRef.renumber]
    simp only [insteadOf_eq_iff hid (htarget u rfl)]

end Recorder

/-! ## Calls -/

/-- literals stored from another number on -/
theorem literalCalls_renumber {f : Nat → Nat} {first first' : Nat} {ls : List Literal}
    (h : ∀ j, j < ls.length → f (first + j) = first' + j) :
    (literalCalls first ls).map (Call.renumber f) = literalCalls first' ls := by
  induction ls generalizing first first' with
  | nil => rfl
  | cons l rest ih =>
    have hfirst : f first = first' := h 0 (Nat.zero_lt_succ _)
    rw [literalCalls, literalCalls, List.map_cons, List.map_cons, Call.renumber, Call.renumber, hfirst,
      ih fun j hj => ?_]
    have hj' := h (j + 1) (Nat.succ_lt_succ hj)
    rwa [Nat.add_comm j 1, ← Nat.add_assoc, ← Nat.add_assoc] at hj'

theorem releases_renumber {f : Nat → Nat} {first first' n : Nat} (h : ∀ j, j < n → f (first + j) = first' + j) :
    ((List.range' first n).map Call.release).map (Call.renumber f) = (List.range' first' n).map Call.release := by
  rw [List.range'_eq_map_range, List.range'_eq_map_range, List.map_map, List.map_map, List.map_map]
  exact List.map_congr_left fun j hj => congrArg Call.release (h j (List.mem_range.1 hj))

/-! ## Operands -/

/-- the operand that an operator stores to was looked up for one of its outputs -/
theorem standsFor_target {τ : Type} [Handle τ] {o : Operator} {env : String → Option τ} {op : Operation}
    {i : Instruction (Operand τ)} {x : Operand τ} (h : (o.decision env op).outcome = .ok i) (hx : i.target? = some x) :
    ∃ w, op.output? o.targetKey = some w ∧ x.StandsFor env (o.decision env op).literals w := by
  rcases request_of_decision h with
    ⟨-, rfl⟩ | ⟨-, k, rfl⟩ | ⟨ho, v, w, y, z, htransfer, rfl, -, hz⟩ | ⟨rfl, w, y, p, hw, rfl, hy, -⟩
  · cases hx
  · cases hx
  · cases hx
    refine ⟨w, ?_, hz⟩
    rcases ho with rfl | rfl
    · cases hv : op.input? "input" <;> cases hw : op.output? "output" <;>
        simp [Operator.transfer?, hv, hw] at htransfer
      exact htransfer.2 ▸ hw
    · cases hv : op.input? "value" <;> cases hw : op.output? "result" <;>
        simp [Operator.transfer?, hv, hw] at htransfer
      exact htransfer.2 ▸ hw
  · cases hx
    exact ⟨w, hw, hy⟩

namespace Operator.StandsIn

variable {τ : Type} [Handle τ] {o : Operator} {env : String → Option τ} {op op' : Operation} {number : Nat}
  {l : Literal} {t : τ}

theorem of_error (h : o.StandsIn env number l t op op') {e : RunError} (he : (o.decision env op).outcome = .error e) :
    (o.decision env op').outcome = .error e := by
  rw [h.decision, Decision.standIn, he]
  rfl

theorem of_ok (h : o.StandsIn env number l t op op') {i : Instruction (Operand τ)}
    (hi : (o.decision env op).outcome = .ok i) :
    (o.decision env op').outcome = .ok (i.map (Operand.standIn number l t)) := by
  rw [h.decision, Decision.standIn, hi]
  rfl

/-- what is stored to is an output, so it is not the literal, which is an input -/
theorem target_ne (h : o.StandsIn env number l t op op') {i : Instruction (Operand τ)}
    (hi : (o.decision env op).outcome = .ok i) : i.target? ≠ some (.literal number l) := by
  intro htarget
  obtain ⟨w, hw, hl, -⟩ := standsFor_target hi htarget
  have htarget' : (i.map (Operand.standIn number l t)).target? = some (.bound t) := by
    rw [Instruction.target?_map, htarget, Option.map_some, Operand.standIn_self]
  obtain ⟨w', hw', name, rfl, -⟩ := standsFor_target (h.of_ok hi) htarget'
  rw [Operation.output?, h.outputs] at hw'
  cases hw.symm.trans hw'
  cases hl

end Operator.StandsIn

namespace Session

variable {s : Session Recorder BufferRef} {failOn : Option String} {number : Nat} {l : Literal} {t : BufferRef}

/-- a tensor stands in for a literal on paper as it does on the recorder -/
theorem ref_standIn (hs : Rests failOn s) (hkind : t.kind = l.kind) (hshape : t.shape = []) {ls : List Literal}
    (hl : ls[number]? = some l) {x : Operand BufferRef} (hx : x.IsFound s.bindings.find? ls) :
    (x.standIn number l t).ref s.engine.buffers.size =
      (x.ref s.engine.buffers.size).renumber (insteadOf (s.engine.buffers.size + number) t.id) := by
  cases x with
  | bound u =>
    obtain ⟨name, hu⟩ := hx
    have hlt := hs.lt_size (NameMap.mem_values_of_find? hu)
    rw [Operand.standIn, Operand.ref, BufferRef.renumber, insteadOf_of_lt (by omega)]
  | literal n m =>
    rcases Nat.lt_trichotomy n number with hlt | rfl | hgt
    · rw [Operand.standIn_of_lt hlt, Operand.ref, BufferRef.renumber, insteadOf_of_lt (by dsimp only; omega)]
    · cases hl.symm.trans hx
      rw [Operand.standIn_self, Operand.ref, Operand.ref, BufferRef.renumber, insteadOf_self, ← hkind, ← hshape]
    · rw [Operand.standIn_of_gt hgt, Operand.ref, Operand.ref, BufferRef.renumber,
        insteadOf_of_gt (by dsimp only; omega), Nat.add_sub_assoc (by omega)]

/-! ## Faults -/

/-- sessions that hold the same under other numbers answer a request with the same fault, or none -/
theorem fault?_issue_renumber {f : Nat → Nat} {s s' : Session Recorder BufferRef}
    (hfail : s'.engine.failOn = s.engine.failOn) (hdata : ∀ id, s'.engine.data? (f id) = s.engine.data? id)
    (i : Instruction BufferRef) :
    Option.Rel (RunError.Renumbered f) (fault? (issue i s)) (fault? (issue (i.map (BufferRef.renumber f)) s')) := by
  have hinvoke : ∀ (p : Primitive) (act act' : EStateM Fault Recorder Unit),
      fault? (act' s'.engine) = (fault? (act s.engine)).map (Fault.renumber f) →
      Option.Rel (RunError.Renumbered f) (fault? (invoke p (Recorder.inWords act) s))
        (fault? (invoke p (Recorder.inWords act') s')) := by
    intro p act act' h
    rw [fault?_invoke, fault?_invoke, Recorder.fault?_inWords, Recorder.fault?_inWords, h]
    cases fault? (act s.engine) with
    | none => exact .none
    | some fault => exact .some (.engine p fault)
  cases i with
  | idle => exact .none
  | fill u p => exact hinvoke .fill _ _ (Recorder.fault?_fill_renumber hfail hdata u p)
  | copy x y => exact hinvoke .copy _ _ (Recorder.fault?_copy_renumber hfail hdata x y)
  | compute name k =>
    rw [Instruction.map, issue, issue]
    exact hinvoke name _ _ (Recorder.fault?_compute_renumber hfail k)

/-- on a recorder without failures literals are stored and scratch tensors released, so the fault of an operation is the
one that was decided, or the answer to its request -/
theorem fault?_perform (hs : Rests none s) (o : Operator) (op : Operation) :
    fault? (perform o op s) =
      if op.dtype.isConcrete then
        match (o.decision s.bindings.find? op).outcome with
        | .error e => some e
        | .ok i => fault? (issue (i.map (Operand.ref s.engine.buffers.size))
          (s.storing (o.decision s.bindings.find? op).literals))
      else some (.unsupportedKind op.name op.dtype) := by
  unfold perform
  split
  · rw [fault?_both, fault?_releaseScratch hs nofun o op, Option.or_none, dispatch_eq, bind_apply]
    rcases storeLiterals_cases (o.decision s.bindings.find? op).literals s with h | ⟨p, -, -, -, hr, -⟩
    · rw [h]
      cases (o.decision s.bindings.find? op).outcome <;> rfl
    · exact absurd hr (hs.serves p)
  · rfl

/-- an operation that fails on a recorder without failures leaves what every buffer holds -/
theorem data?_of_fault (hs : Rests none s) {o : Operator} {op : Operation} {e : RunError}
    (he : fault? (perform o op s) = some e) (id : Nat) :
    (reached (perform o op s)).engine.data? id = s.engine.data? id := by
  rcases perform_of_releasing o op hs.scratch (hs.serves .release) with
    ⟨i, -, -, -, h⟩ | ⟨e', s', stored, h, -, -, -, hdata⟩
  · rw [h] at he
    cases he
  · rw [h]
    exact hdata id

/-! ## Operations -/

/-- the log with and without the calls for one literal -/
theorem log_performed_standIn (before after : List Literal) (j : Instruction BufferRef) :
    let first := s.engine.buffers.size
    let k := first + before.length
    let f := insteadOf k t.id
    (s.performed (before ++ l :: after) j).engine.log.toList = s.engine.log.toList ++
      (literalCalls first before ++ [.allocate k l.kind [], .fill k] ++ literalCalls (k + 1) after ++ j.calls ++
        (List.range' first before.length).map Call.release ++ [.release k] ++
        (List.range' (k + 1) after.length).map Call.release) ∧
    (s.performed (before ++ after) (j.map (BufferRef.renumber f))).engine.log.toList = s.engine.log.toList ++
      (literalCalls first before ++ literalCalls (k + 1) after ++ j.calls ++
        (List.range' first before.length).map Call.release ++
        (List.range' (k + 1) after.length).map Call.release).map (Call.renumber f) := by
  intro first k f
  have hbefore : ∀ n, n < before.length → f (first + n) = first + n := fun n hn => insteadOf_of_lt (by omega)
  have hafter : ∀ n, n < after.length → f (k + 1 + n) = k + n := fun n _ =>
    (insteadOf_of_gt (by omega)).trans (by omega)
  refine ⟨?_, ?_⟩
  · rw [log_performed, literalCalls_append, literalCalls, List.length_append, List.length_cons, ← List.range'_append_1,
      List.range'_succ]
    simp only [List.map_append, List.map_cons, List.append_assoc, List.cons_append, List.nil_append, first, k]
  · rw [log_performed, literalCalls_append, List.length_append, ← List.range'_append_1, Instruction.calls_renumber]
    simp only [List.map_append, literalCalls_renumber hbefore, literalCalls_renumber hafter,
      releases_renumber hbefore, releases_renumber hafter, List.append_assoc, first, k]

/-- the tensor holds what a scratch tensor for the literal holds -/
theorem Holds.data_eq {name : String} (h : s.Holds name l t) : s.engine.data? t.id = some l.toPayload := by
  obtain ⟨p, hp, hone⟩ := h.contents
  rw [hp, Literal.eq_toPayload hone]

section

variable {name : String} {o : Operator} {op op' : Operation} {i : Instruction (Operand BufferRef)}
  (hs : Rests none s) (hheld : s.Holds name l t) (h : o.StandsIn s.bindings.find? number l t op op')

include hs hheld h

/-- what an operation asks of the recorder once a tensor stands in for a literal -/
theorem map_ref_standIn (hi : (o.decision s.bindings.find? op).outcome = .ok i) :
    (i.map (Operand.standIn number l t)).map (Operand.ref s.engine.buffers.size) =
      (i.map (Operand.ref s.engine.buffers.size)).map
        (BufferRef.renumber (insteadOf (s.engine.buffers.size + number) t.id)) := by
  rw [Instruction.map_map, Instruction.map_map]
  exact Instruction.map_congr fun x hx =>
    ref_standIn hs hheld.kind hheld.shape (h.sees i hi) (found_of_decision hi x hx)

/-- with and without the literal an operation has the same fault or none -/
theorem rel_fault?_perform :
    Option.Rel (RunError.Renumbered (insteadOf (s.engine.buffers.size + number) t.id)) (fault? (perform o op s))
      (fault? (perform o op' s)) := by
  rw [fault?_perform hs, fault?_perform hs, h.name, h.dtype]
  split
  · cases hi : (o.decision s.bindings.find? op).outcome with
    | error e =>
      rw [h.of_error hi]
      exact .some (renumbered_of_decision hi)
    | ok i =>
      rw [h.of_ok hi, h.decision]
      dsimp only [Decision.standIn]
      rw [map_ref_standIn hs hheld h hi]
      refine fault?_issue_renumber ?_ (Recorder.data?_storing_insteadOf (h.sees i hi) hheld.data_eq) _
      rw [Session.storing, Session.storing, Recorder.failOn_storing, Recorder.failOn_storing]
  · exact .some (.other (fun p why he => by cases he) rfl)

omit hheld in
/-- a request does not store to the buffer of the literal -/
theorem id_target_ne (hi : (o.decision s.bindings.find? op).outcome = .ok i) {u : BufferRef}
    (hu : (i.map (Operand.ref s.engine.buffers.size)).target? = some u) : u.id ≠ s.engine.buffers.size + number := by
  intro hid
  rw [Instruction.target?_map] at hu
  obtain ⟨x, hx, rfl⟩ := Option.map_eq_some_iff.1 hu
  have hfound := found_of_decision hi x (Instruction.mem_handles_of_target? hx)
  cases x with
  | bound u =>
    obtain ⟨name, hu⟩ := hfound
    have hlt := hs.lt_size (NameMap.mem_values_of_find? hu)
    rw [Operand.ref] at hid
    omega
  | literal n m =>
    obtain rfl : n = number := Nat.add_left_cancel hid
    cases (h.sees i hi).symm.trans hfound
    exact h.target_ne hi hx

/-- if all goes well with and without the literal, both come to the same request -/
theorem performed_standIn (hok : fault? (perform o op s) = none) (hok' : fault? (perform o op' s) = none) :
    ∃ j, o.IsCore j.calls ∧ (s.engine.storing (o.literals op)).Accepts j ∧
      (∀ u, j.target? = some u → u.id ≠ s.engine.buffers.size + number) ∧ (o.literals op)[number]? = some l ∧
      reached (perform o op s) = s.performed (o.literals op) j ∧
      reached (perform o op' s) = s.performed ((o.literals op).eraseIdx number)
        (j.map (BufferRef.renumber (insteadOf (s.engine.buffers.size + number) t.id))) := by
  obtain ⟨s₁, h₁⟩ := exists_ok_iff.2 hok
  obtain ⟨s₂, h₂⟩ := exists_ok_iff.2 hok'
  obtain ⟨-, i, hi, haccepts, rfl⟩ := (perform_eq_ok_iff hs.scratch hs.coupled.failOn_eq).1 h₁
  obtain ⟨-, i', hi', -, rfl⟩ := (perform_eq_ok_iff hs.scratch hs.coupled.failOn_eq).1 h₂
  cases (h.of_ok hi).symm.trans hi'
  have hseen := literals_of_decision hi
  have hseen' : o.literals op' = (o.literals op).eraseIdx number := by
    rw [← literals_of_decision hi', h.decision, Decision.standIn, hseen]
  rw [h₁, h₂, reached_ok, reached_ok, hseen', map_ref_standIn hs hheld h hi]
  exact ⟨_, isCore_of_decision hi _, haccepts, fun u => id_target_ne hs h hi, hseen ▸ h.sees i hi, rfl, rfl⟩

/-- whether or not it goes well, an operation leaves the same in all buffers that were there before -/
theorem data?_perform_standIn {id : Nat} (hid : id < s.engine.buffers.size) :
    (reached (perform o op' s)).engine.data? id = (reached (perform o op s)).engine.data? id := by
  have hfault := eq_none_iff_of_rel (rel_fault?_perform hs hheld h)
  by_cases hok : fault? (perform o op s) = none
  · obtain ⟨j, -, haccepts, htarget, hnumber, hrun, hrun'⟩ := performed_standIn hs hheld h hok (hfault.2 hok)
    rw [hrun, hrun', data?_performed hid, data?_performed hid]
    exact Recorder.data?_following_insteadOf (Recorder.data?_storing_insteadOf hnumber hheld.data_eq) haccepts
      htarget (by omega)
  · obtain ⟨e, he⟩ := Option.ne_none_iff_exists'.1 hok
    obtain ⟨e', he'⟩ := Option.ne_none_iff_exists'.1 fun hok' => hok (hfault.1 hok')
    rw [data?_of_fault hs he, data?_of_fault hs he']

end

end Session

/-! ## Main result -/

open Session in
/-- **Literals are scalar tensors.** Take any session on a recorder without failures, whatever its history, and an
operation with a literal among the inputs that its operator takes. Put in its place the name of a scalar tensor that
holds the same.

The operation has the same fault as before or goes well as before, it leaves the same tensors bound, and what they
hold is the same, even if the operation stores to the tensor itself. If it goes well, the log is the same but for the
allocation, the filling and the release of the literal: the tensor stands in for the buffer of the literal, and later
buffers are numbered one lower. -/
theorem perform_instead_of_literal (history : List Step) (o : Operator) (op : Operation) {key name : String}
    {v v' : Value} {l : Literal} {t : BufferRef} (hkey : ∃ slot ∈ o.signature, slot.Takes key)
    (hv : op.input? key = some v) (hsub : v.Substitutes name l v')
    (hheld : ((Session.fresh none).after history).Holds name l t) :
    let s := (Session.fresh none).after history
    let first := s.engine.buffers.size
    let run := perform o op s
    let run' := perform o (op.withInput key v') s
    ∃ number,
      let k := first + number
      let f := insteadOf k t.id
      Option.Rel (RunError.Renumbered f) (fault? run) (fault? run') ∧
      (reached run').bindings = (reached run).bindings ∧
      (∀ x u, (reached run).bindings.find? x = some u →
        (reached run').engine.data? u.id = (reached run).engine.data? u.id) ∧
      (fault? run = none → ∃ before after core, o.literals op = before ++ l :: after ∧ before.length = number ∧
        o.IsCore core ∧
        (reached run).engine.log.toList = s.engine.log.toList ++
          (literalCalls first before ++ [.allocate k l.kind [], .fill k] ++ literalCalls (k + 1) after ++ core ++
            (List.range' first number).map Call.release ++ [.release k] ++
            (List.range' (k + 1) after.length).map Call.release) ∧
        (reached run').engine.log.toList = s.engine.log.toList ++
          (literalCalls first before ++ literalCalls (k + 1) after ++ core ++
            (List.range' first number).map Call.release ++
            (List.range' (k + 1) after.length).map Call.release).map (Call.renumber f)) := by
  intro s first run run'
  have hs : Rests none s := after_atRest _ (coupled_fresh none) history
  have hbindings : ∀ op, (reached (perform o op s)).bindings = s.bindings := fun op =>
    (perform_keeps Custody.any o op (s := s) trivial).2.1
  obtain ⟨number, h⟩ := exists_standsIn hkey hv hsub hheld.bound hheld.kind hheld.shape
  have hfault : Option.Rel _ (fault? run) (fault? run') := rel_fault?_perform hs hheld h
  refine ⟨number, hfault, (hbindings _).trans (hbindings op).symm, fun x u hu => ?_, fun hok => ?_⟩
  · rw [hbindings] at hu
    exact data?_perform_standIn hs hheld h (hs.lt_size (NameMap.mem_values_of_find? hu))
  · obtain ⟨j, hcore, -, -, hnumber, hrun, hrun'⟩ :=
      performed_standIn hs hheld h hok ((eq_none_iff_of_rel hfault).2 hok)
    obtain ⟨before, after, hsplit, hlength, herase⟩ := exists_split_of_getElem? hnumber
    obtain ⟨hlog, hlog'⟩ := log_performed_standIn (s := s) (l := l) (t := t) before after j
    rw [hlength] at hlog hlog'
    refine ⟨before, after, j.calls, hsplit, hlength, hcore, ?_, ?_⟩
    · rw [show reached run = _ from hrun, hsplit, hlog]
    · rw [show reached run' = _ from hrun', herase, hlog']

open Session in
/-- two literals, for the first of which a tensor stands in -/
theorem perform_instead_of_literal_two :
    let s := (fresh none).after [.create ⟨"two", .integer, [], none⟩, .create ⟨"z", .float, [], none⟩,
      .write ⟨"two", .integer, [], some (.integer [2])⟩]
    let op := (((Operation.named "mul" .float).withInput "x" (.integer 2)).withInput "y" (.integer 3)).withOutput "z"
      (.identifier "z")
    let run := perform (.binary .float .mul) op s
    let run' := perform (.binary .float .mul) (op.withInput "x" (.identifier "two")) s
    s.Holds "two" (.integer 2) ⟨0, .integer, []⟩ ∧ fault? run = none ∧ fault? run' = none ∧
      (reached run).engine.log.toList = s.engine.log.toList ++
        [.allocate 2 .integer [], .fill 2, .allocate 3 .integer [], .fill 3, .compute (.binary .mul .float 2 3 1),
          .release 2, .release 3] ∧
      (reached run').engine.log.toList = s.engine.log.toList ++
        [.allocate 2 .integer [], .fill 2, .compute (.binary .mul .float 0 2 1), .release 2] := by
  intro s op run run'
  have hheld : s.Holds "two" (.integer 2) ⟨0, .integer, []⟩ :=
    ⟨by decide +kernel, rfl, rfl, .integer [2], by decide +kernel, rfl⟩
  obtain ⟨number, hfault, -⟩ := perform_instead_of_literal _ (.binary .float .mul) op
    ⟨.input "x", List.mem_cons_self, rfl⟩ (show op.input? "x" = some (.integer 2) by decide +kernel)
    (.self (.integer 2)) hheld
  have hok : fault? run = none := by decide +kernel
  exact ⟨hheld, hok, (eq_none_iff_of_rel hfault).2 hok, by decide +kernel, by decide +kernel⟩

end TensorGraph
