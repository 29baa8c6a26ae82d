/-
One operation is all or nothing.

Model: an operation that goes well leaves three things in the log, in this order: its literals stored, its core, and its
scratch tensors released. An operation that fails leaves only storing and releasing, and no buffer is changed. Where
the recorder fails to release, all this is the same but for the releases.

Main result: `perform_all_or_nothing`.
-/
import TensorGraph.Proofs.Coupling
import TensorGraph.Proofs.Scratch
import TensorGraph.Proofs.Transfer

namespace TensorGraph

/-! ## Model -/

/-- what an operator asks of the engine for itself: one request that is not about storage, with three exceptions -/
def Operator.IsCore (o : Operator) (calls : List Call) : Prop :=
  match o with
  | .external => calls = []
  | .parameter => calls = []
  | .constant => ∃ id, calls = [.fill id]
  | _ => ∃ c, calls = [c] ∧ c.isStorage = false

/-! ## The core -/

/-- whatever was decided is one request of the sort of the operator -/
theorem isCore_of_decision {o : Operator} {env : String → Option BufferRef} {op : Operation}
    {i : Instruction (Operand BufferRef)} (h : (o.decision env op).outcome = .ok i)
    (f : Operand BufferRef → BufferRef) :
    o.IsCore (i.map f).calls := by
  obtain ⟨xs, -, hplan⟩ := plan_of_decision h
  have hkernel : o.computes = true → ∃ c, (i.map f).calls = [c] ∧ c.isStorage = false := by
    intro ho
    have hspec := Operator.plans_plan ho op xs
    rw [hplan] at hspec
    obtain ⟨-⟩ := hspec
    exact ⟨_, rfl, rfl⟩
  cases o with
  | reshape => cases hplan; exact ⟨_, rfl, rfl⟩
  | update => cases hplan; exact ⟨_, rfl, rfl⟩
  | external => cases hplan; rfl
  | parameter => cases hplan; rfl
  | unimplemented => cases hplan
  | constant =>
    have hspec := op.plans_constant xs.1
    rw [show op.planConstant xs.1 = .ok i from hplan] at hspec
    obtain ⟨p, rfl⟩ := hspec
    exact ⟨_, rfl⟩
  | _ => exact hkernel rfl

namespace Session

/-! ## Before scratch tensors are given back -/

/-- a session after its literals were stored and an instruction went well -/
def following (s : Session Recorder BufferRef) (ls : List Literal) (i : Instruction BufferRef) :
    Session Recorder BufferRef :=
  { s.storing ls with
    engine := (s.engine.storing ls).following i
    requests := (s.storing ls).requests + i.calls.length }

/-- what was decided went well, or only literals were stored -/
theorem dispatch_result (o : Operator) (op : Operation) (s : Session Recorder BufferRef) :
    (∃ i, (o.decision s.bindings.find? op).outcome = .ok i ∧
      (s.engine.storing (o.literals op)).Accepts (i.map (Operand.ref s.engine.buffers.size)) ∧
      dispatch o op s = .ok () (s.following (o.literals op) (i.map (Operand.ref s.engine.buffers.size)))) ∨
    ∃ e s' stored, dispatch o op s = .error e s' ∧
      ((∃ p, s.engine.Refuses p) ∨ ∀ i, (o.decision s.bindings.find? op).outcome = .ok i →
        ¬ (s.engine.storing (o.literals op)).Accepts (i.map (Operand.ref s.engine.buffers.size))) ∧
      stored <+: literalCalls s.engine.buffers.size (o.literals op) ∧ Stored s s' stored := by
  rcases dispatch_cases o op s with ⟨i, hd, h⟩ | ⟨e, s', stored, h, hwhy, hprefix, hstored⟩
  · have hnamed := (isNamed_of_decision hd).map (Operand.ref s.engine.buffers.size)
    rcases issue_cases hnamed (s.storing (o.literals op)) with
      ⟨haccepts, hi⟩ | ⟨hrejects, p, f, -, hi⟩
    · exact Or.inl ⟨i, hd, haccepts, h.trans hi⟩
    · have hall := stored_storing s (o.literals op)
      refine Or.inr ⟨_, _, _, h.trans hi, Or.inr fun i' hd' => ?_, List.prefix_refl _,
        ⟨hall.bindings, hall.reserved, hall.failOn, hall.log, hall.scratch, hall.old, hall.new⟩⟩
      cases hd.symm.trans hd'
      exact hrejects
  · refine Or.inr ⟨e, s', stored, h, ?_, hprefix, hstored⟩
    rcases hwhy with hd | ⟨p, hr, -⟩
    · exact Or.inr fun i hd' => nomatch hd.symm.trans hd'
    · exact Or.inl ⟨p, hr⟩

/-- the scratch tensors are new, and still live after an instruction that went well -/
theorem isSome_data?_following {s : Session Recorder BufferRef} {ls : List Literal} {i : Instruction BufferRef}
    (hi : (s.engine.storing ls).Accepts i) {j : Nat} (hle : s.engine.buffers.size ≤ j)
    (hlt : j < s.engine.buffers.size + ls.length) : ((s.following ls i).engine.data? j).isSome := by
  rw [show (s.following ls i).engine = (s.engine.storing ls).following i from rfl, Recorder.isSome_data?_following hi,
    Recorder.data?_storing, if_neg (Nat.not_lt.2 hle), Option.isSome_map, List.getElem?_eq_getElem (by omega)]
  rfl

/-! ## Giving scratch tensors back -/

/-- scratch tensors that are new and live are all released, oldest first -/
theorem releaseScratch_of_new {s : Session Recorder BufferRef} {first n : Nat} (hr : ¬ s.engine.Refuses .release)
    (hids : s.scratch.map BufferRef.id = List.range' first n)
    (hlive : ∀ j, first ≤ j → j < first + n → (s.engine.data? j).isSome) :
    releaseScratch s = .ok ()
      { s with
        engine := s.engine.releasing (List.range' first n)
        scratch := []
        requests := s.requests + n } := by
  have hlen : s.scratch.length = n := by
    have h := congrArg List.length hids
    rwa [List.length_map, List.length_range'] at h
  unfold releaseScratch
  rw [releaseAll_of_live (s := { s with scratch := [] }) hr ?_ ?_, hids, hlen]
  · intro t ht
    have hmem : t.id ∈ List.range' first n := hids ▸ List.mem_map_of_mem ht
    obtain ⟨hle, hlt⟩ := List.mem_range'_1.1 hmem
    exact hlive t.id hle hlt
  · rw [hids]
    exact List.nodup_range'

/-- a recorder that fails to release is left as it is -/
theorem releaseScratch_of_refusing {s : Session Recorder BufferRef} (hr : s.engine.Refuses .release) :
    ∃ s', s'.engine = s.engine ∧ releaseScratch s = if s.scratch = [] then .ok () s'
      else .error (.engine .release (Fault.injected .release).message) s' := by
  refine ⟨{ s with scratch := [], requests := s.requests + s.scratch.length }, rfl, ?_⟩
  unfold releaseScratch
  rw [releaseAll_of_refusing (s := { s with scratch := [] }) hr]
  split_ifs with h
  · rw [h]
    rfl
  · rfl

/-- what is left when nothing but literals was stored, and their tensors are released again -/
theorem releaseScratch_of_stored {s s' : Session Recorder BufferRef} {stored : List Call} (hs : s.scratch = [])
    (h : Stored s s' stored) (hr : ¬ s.engine.Refuses .release) :
    ∃ s'', releaseScratch s' = .ok () s'' ∧
      s''.engine.log.toList =
        s.engine.log.toList ++ stored ++ (stored.filterMap Call.allocated?).map Call.release ∧
      ∀ id, s''.engine.data? id = s.engine.data? id := by
  obtain ⟨new, hscratch, hallocated, hids, hsize⟩ := h.scratch
  rw [hs, List.nil_append] at hscratch
  have hr' : ¬ s'.engine.Refuses .release := fun hr' => hr (h.failOn.symm.trans hr')
  refine ⟨_, releaseScratch_of_new hr' (by rw [hscratch]; exact hids) fun j hle hlt => h.new j hle (hsize ▸ hlt), ?_,
    fun id => ?_⟩
  · dsimp only
    rw [Recorder.log_releasing, h.log, ← hids, hallocated]
  · dsimp only
    rw [Recorder.data?_releasing]
    rcases Nat.lt_or_ge id s.engine.buffers.size with hlt | hge
    · rw [if_neg fun hmem => Nat.not_le.2 hlt (List.mem_range'_1.1 hmem).1]
      exact h.old id hlt
    · rw [Recorder.data?_eq_none_of_le hge]
      split_ifs with hmem
      · rfl
      · refine Recorder.data?_eq_none_of_le (Nat.le_of_not_lt fun hlt => hmem ?_)
        exact List.mem_range'_1.2 ⟨hge, hsize ▸ hlt⟩

/-! ## One operation -/

/-- a session after an operation that went well, its scratch tensors released -/
def performed (s : Session Recorder BufferRef) (ls : List Literal) (i : Instruction BufferRef) :
    Session Recorder BufferRef :=
  { s.following ls i with
    engine := (s.following ls i).engine.releasing (List.range' s.engine.buffers.size ls.length)
    scratch := []
    requests := (s.following ls i).requests + ls.length }

/-- what is in the log after the core of an operation -/
theorem log_following (s : Session Recorder BufferRef) (ls : List Literal) (i : Instruction BufferRef) :
    (s.following ls i).engine.log.toList =
      s.engine.log.toList ++ literalCalls s.engine.buffers.size ls ++ i.calls := by
  rw [show (s.following ls i).engine = (s.engine.storing ls).following i from rfl, Recorder.log_following,
    Recorder.log_storing]

/-- scratch tensors come and go above the buffers that were there before -/
theorem data?_performed {s : Session Recorder BufferRef} {ls : List Literal} {i : Instruction BufferRef} {j : Nat}
    (hj : j < s.engine.buffers.size) :
    (s.performed ls i).engine.data? j = ((s.engine.storing ls).following i).data? j := by
  change (((s.engine.storing ls).following i).releasing _).data? j = _
  rw [Recorder.data?_releasing, if_neg fun hmem => Nat.not_le.2 hj (List.mem_range'_1.1 hmem).1]

/-- an operation on a recorder that releases -/
theorem perform_of_releasing (o : Operator) (op : Operation) {s : Session Recorder BufferRef} (hs : s.scratch = [])
    (hr : ¬ s.engine.Refuses .release) :
    (∃ i, op.dtype.isConcrete = true ∧ (o.decision s.bindings.find? op).outcome = .ok i ∧
      (s.engine.storing (o.literals op)).Accepts (i.map (Operand.ref s.engine.buffers.size)) ∧
      perform o op s = .ok () (s.performed (o.literals op) (i.map (Operand.ref s.engine.buffers.size)))) ∨
    ∃ e s' stored, perform o op s = .error e s' ∧
      (op.dtype.isConcrete = true → (∃ p, s.engine.Refuses p) ∨ ∀ i,
        (o.decision s.bindings.find? op).outcome = .ok i →
          ¬ (s.engine.storing (o.literals op)).Accepts (i.map (Operand.ref s.engine.buffers.size))) ∧
      stored <+: literalCalls s.engine.buffers.size (o.literals op) ∧
      s'.engine.log.toList =
        s.engine.log.toList ++ stored ++ (stored.filterMap Call.allocated?).map Call.release ∧
      ∀ id, s'.engine.data? id = s.engine.data? id := by
  unfold perform
  split
  · rename_i hconcrete
    rcases dispatch_result o op s with ⟨i, hd, haccepts, h⟩ | ⟨e, s', stored, h, hwhy, hprefix, hstored⟩
    · refine Or.inl ⟨i, hconcrete, hd, haccepts, ?_⟩
      have hr' : ¬ (s.following (o.literals op) (i.map (Operand.ref s.engine.buffers.size))).engine.Refuses .release := by
        intro hr'
        refine hr (Eq.trans ?_ hr')
        simp [following]
      have hids : (s.following (o.literals op) (i.map (Operand.ref s.engine.buffers.size))).scratch.map BufferRef.id =
          List.range' s.engine.buffers.size (o.literals op).length := by
        change (s.scratch ++ literalRefs _ _).map BufferRef.id = _
        rw [hs, List.nil_append, ids_literalRefs]
      rw [both_apply, h]
      exact releaseScratch_of_new hr' hids fun j => isSome_data?_following haccepts
    · right
      obtain ⟨s'', hrelease, hlog, hdata⟩ := releaseScratch_of_stored hs hstored hr
      rw [both_apply, h]
      dsimp only [fault?_error, reached_error]
      rw [hrelease]
      exact ⟨e, s'', stored, rfl, fun _ => hwhy, hprefix, hlog, hdata⟩
  · rename_i hconcrete
    refine Or.inr ⟨_, s, [], rfl, fun h => absurd h hconcrete, List.nil_prefix, ?_, fun _ => rfl⟩
    simp

/-- an operation on a recorder that fails to release -/
theorem perform_of_refusing (o : Operator) (op : Operation) {s : Session Recorder BufferRef} (hs : s.scratch = [])
    (hr : s.engine.Refuses .release) :
    (∃ s' i, (o.decision s.bindings.find? op).outcome = .ok i ∧
      s'.engine = (s.following (o.literals op) (i.map (Operand.ref s.engine.buffers.size))).engine ∧
      perform o op s = if o.literals op = [] then .ok () s'
        else .error (.engine .release (Fault.injected .release).message) s') ∨
    ∃ e s' stored, perform o op s = .error e s' ∧
      stored <+: literalCalls s.engine.buffers.size (o.literals op) ∧
      s'.engine.log.toList = s.engine.log.toList ++ stored ∧
      ∀ id, id < s.engine.buffers.size → s'.engine.data? id = s.engine.data? id := by
  unfold perform
  split
  · rcases dispatch_result o op s with ⟨i, hd, haccepts, h⟩ | ⟨e, s', stored, h, -, hprefix, hstored⟩
    · left
      have hr' : (s.following (o.literals op) (i.map (Operand.ref s.engine.buffers.size))).engine.Refuses .release := by
        refine Eq.trans ?_ hr
        simp [following]
      obtain ⟨s', hengine, hrelease⟩ := releaseScratch_of_refusing hr'
      have hscratch : (s.following (o.literals op) (i.map (Operand.ref s.engine.buffers.size))).scratch =
          literalRefs s.engine.buffers.size (o.literals op) := by
        change s.scratch ++ literalRefs _ _ = _
        rw [hs, List.nil_append]
      refine ⟨s', i, hd, hengine, ?_⟩
      rw [both_apply, h]
      dsimp only [fault?_ok, reached_ok]
      rw [hrelease, hscratch]
      cases o.literals op <;> rfl
    · right
      have hr' : s'.engine.Refuses .release := hstored.failOn.trans hr
      obtain ⟨s'', hengine, hrelease⟩ := releaseScratch_of_refusing hr'
      have hreached : reached (releaseScratch s') = s'' := by
        rw [hrelease]
        split <;> rfl
      rw [both_apply, h]
      dsimp only [fault?_error, reached_error]
      rw [hreached]
      exact ⟨e, s'', stored, rfl, hprefix, hengine ▸ hstored.log, hengine ▸ hstored.old⟩
  · refine Or.inr ⟨_, s, [], rfl, List.nil_prefix, ?_, fun _ _ => rfl⟩
    simp

end Session

/-! ## Main result -/

open Session in
/-- **All or nothing.** Take any session on a recorder, whatever its history and whichever primitive always fails. No
operation changes what names stand for, or leaves a scratch tensor behind.

If the recorder releases, an operation that goes well adds to the log, in this order: for each literal among its
operands a new buffer, numbered without gaps, and its filling; the core of its operator; the releases of the new buffers.
An operation that fails adds some of the storing of literals, cut off at the end, and the releases of what was
allocated; all buffers are what they were.

If releasing always fails, the same is true without the releases, and an operation goes well only if it has no
literals: if the rest went well, releasing them is its fault. -/
theorem perform_all_or_nothing (failOn : Option String) (history : List Step) (o : Operator) (op : Operation) :
    let s := (Session.fresh failOn).after history
    let first := s.engine.buffers.size
    let s' := reached (perform o op s)
    let fault := fault? (perform o op s)
    (s'.bindings = s.bindings ∧ s'.reserved = s.reserved ∧ s'.scratch = [] ∧
      ∀ id kind shape, .allocate id kind shape ∈ s.engine.log.toList → id < first) ∧
    (failOn ≠ some Primitive.release.name →
      (fault = none → ∃ core, o.IsCore core ∧
        s'.engine.log.toList = s.engine.log.toList ++ literalCalls first (o.literals op) ++ core ++
          (List.range' first (o.literals op).length).map Call.release) ∧
      (fault ≠ none → ∃ stored, stored <+: literalCalls first (o.literals op) ∧
        s'.engine.log.toList = s.engine.log.toList ++ stored ++
          (stored.filterMap Call.allocated?).map Call.release ∧
        ∀ id, s'.engine.data? id = s.engine.data? id)) ∧
    (failOn = some Primitive.release.name →
      (fault = none → o.literals op = [] ∧ ∃ core, o.IsCore core ∧
        s'.engine.log.toList = s.engine.log.toList ++ core) ∧
      (fault ≠ none →
        (∃ stored, stored <+: literalCalls first (o.literals op) ∧
          s'.engine.log.toList = s.engine.log.toList ++ stored ∧
          ∀ id, id < first → s'.engine.data? id = s.engine.data? id) ∨
        (o.literals op ≠ [] ∧ fault = some (.engine .release (Fault.injected .release).message) ∧
          ∃ core, o.IsCore core ∧
            s'.engine.log.toList = s.engine.log.toList ++ literalCalls first (o.literals op) ++ core))) := by
  intro s first s' fault
  obtain ⟨hcoupled, hscratch⟩ := coupled_after failOn history
  obtain ⟨-, hbindings, hreserved, hempty⟩ := perform_keeps Custody.any o op (s := s) trivial
  have hfail : s.engine.failOn = failOn := hcoupled.failOn_eq
  refine ⟨⟨hbindings, hreserved, hempty hscratch, hcoupled.allocated⟩, fun hne => ?_, fun heq => ?_⟩
  · have hr : ¬ s.engine.Refuses .release := fun h => hne (hfail.symm.trans h)
    rcases perform_of_releasing o op hscratch hr with
      ⟨i, -, hd, -, h⟩ | ⟨e, u, stored, h, -, hprefix, hlog, hdata⟩
    · refine ⟨fun _ => ⟨_, isCore_of_decision hd (Operand.ref first), ?_⟩, fun hfault => ?_⟩
      · rw [show s' = s.performed _ _ from congrArg reached h, performed, Recorder.log_releasing, log_following]
      · exact absurd (congrArg fault? h) hfault
    · refine ⟨fun hfault => ?_, fun _ => ⟨stored, hprefix, ?_⟩⟩
      · rw [show fault = some e from congrArg fault? h] at hfault
        cases hfault
      · rw [show s' = u from congrArg reached h]
        exact ⟨hlog, hdata⟩
  · have hr : s.engine.Refuses .release := hfail.trans heq
    rcases perform_of_refusing o op hscratch hr with
      ⟨u, i, hd, hengine, h⟩ | ⟨e, u, stored, h, hprefix, hlog, hdata⟩
    · have hcore := isCore_of_decision hd (Operand.ref first)
      by_cases hls : o.literals op = []
      · rw [if_pos hls] at h
        refine ⟨fun _ => ⟨hls, _, hcore, ?_⟩, fun hfault => absurd (congrArg fault? h) hfault⟩
        rw [show s' = u from congrArg reached h, hengine, log_following, hls, literalCalls, List.append_nil]
      · rw [if_neg hls] at h
        refine ⟨fun hfault => ?_, fun _ => Or.inr ⟨hls, congrArg fault? h, _, hcore, ?_⟩⟩
        · rw [show fault = _ from congrArg fault? h] at hfault
          cases hfault
        · rw [show s' = u from congrArg reached h, hengine, log_following]
    · refine ⟨fun hfault => ?_, fun _ => Or.inl ⟨stored, hprefix, ?_⟩⟩
      · rw [show fault = some e from congrArg fault? h] at hfault
        cases hfault
      · rw [show s' = u from congrArg reached h]
        exact ⟨hlog, hdata⟩

end TensorGraph
