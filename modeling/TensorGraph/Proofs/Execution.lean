/-
When an operation goes well on a recorder without failures, and what it leaves.

Model: `Session.Names` says that an operand is the name of a bound tensor, and `Lookup.Resolves` what any value of an
operand stands for. On a recorder on which nothing always fails, an operation of a kernel goes well exactly if its kind
is concrete, its check passes and it has a plan on the operands that are found; the session is then the one of
`Session.performed`.

Main results:
- `perform_eq_ok_iff`: an operation goes well if it comes to a request that the recorder accepts;
- `performNamed_eq_ok_iff`: the same for the operator of a name, from what is found in its slots;
- `performNamed_described`: what is in the log of an operation that goes well as described.
-/
import TensorGraph.Proofs.Atomicity

namespace TensorGraph

/-! ## Model -/

/-- an operand that is the name of a bound tensor -/
def Session.Names {σ τ : Type} (s : Session σ τ) (v : Option Value) (t : τ) : Prop :=
  ∃ name, v = some (.identifier name) ∧ s.bindings.find? name = some t

/-- the operand that a value stands for, and the literals seen after it -/
inductive Lookup.Resolves {τ : Type} (env : String → Option τ) :
    Value → List Literal → Operand τ → List Literal → Prop
  | bound {name : String} {t : τ} {seen : List Literal} (h : env name = some t) :
    Resolves env (.identifier name) seen (.bound t) seen
  | literal {v : Value} {l : Literal} {seen : List Literal} (h : v.literal? = some l) :
    Resolves env v seen (.literal seen.length l) (seen ++ [l])

/-! ## Filling slots -/

namespace Lookup

variable {τ : Type} {env : String → Option τ} {op : Operation} {key name : String} {seen : List Literal} {v : Value}

theorem resolve_of_bound {t : τ} (h : env name = some t) :
    (supply env).resolve op key (.identifier name) seen = .ok (.bound t) seen := by
  rw [Supply.resolve, supply_named, h]

theorem resolve_of_literal {l : Literal} (h : v.literal? = some l) :
    (supply env).resolve op key v seen = .ok (.literal seen.length l) (seen ++ [l]) := by
  cases v <;> cases h <;> rfl

theorem fillSlot_input (h : op.input? key = some v) :
    (supply env).fillSlot op (.input key) seen = (supply env).resolve op key v seen := by
  rw [Supply.fillSlot, h]
  rfl

theorem fillSlot_output (h : op.output? key = some v) :
    (supply env).fillSlot op (.output key) seen = (supply env).resolve op key v seen := by
  rw [Supply.fillSlot, h]
  rfl

theorem fillSlots_cons {slot : Slot} {rest : List Slot} {x : slot.Filling (Operand τ)} {xs : Operands (Operand τ) rest}
    {mid all : List Literal} (hx : (supply env).fillSlot op slot seen = .ok x mid)
    (hxs : (supply env).fillSlots op rest mid = .ok xs all) :
    (supply env).fillSlots op (slot :: rest) seen = .ok (x, xs) all := by
  rw [Supply.fillSlots, bind_of_ok hx, bind_of_ok hxs]
  rfl

section

variable {x : Operand τ} {all : List Literal}

/-- a value is resolved to what it stands for, whatever operation it belongs to -/
theorem resolve_eq_ok_iff : (supply env).resolve op key v seen = .ok x all ↔ Resolves env v seen x all := by
  constructor
  · intro h
    cases v with
    | identifier name =>
      rw [Supply.resolve, supply_named] at h
      cases ht : env name with
      | none => rw [ht] at h; cases h
      | some t => rw [ht] at h; cases h; exact .bound ht
    | scalar y => cases h; exact .literal rfl
    | integer n => cases h; exact .literal rfl
    | logical b => cases h; exact .literal rfl
    | string text => cases h
    | array items => cases h
    | tuple items => cases h
  · rintro (ht | hl)
    · exact resolve_of_bound ht
    · exact resolve_of_literal hl

theorem fillSlot_input_eq_ok_iff : (supply env).fillSlot op (.input key) seen = .ok x all ↔
    ∃ v, op.input? key = some v ∧ Resolves env v seen x all := by
  cases hv : op.input? key with
  | none =>
    rw [Supply.fillSlot, hv]
    constructor
    · intro h
      cases h
    · rintro ⟨v, hv, -⟩
      cases hv
  | some v => simp [fillSlot_input hv, resolve_eq_ok_iff]

theorem fillSlot_output_eq_ok_iff : (supply env).fillSlot op (.output key) seen = .ok x all ↔
    ∃ v, op.output? key = some v ∧ Resolves env v seen x all := by
  cases hv : op.output? key with
  | none =>
    rw [Supply.fillSlot, hv]
    constructor
    · intro h
      cases h
    · rintro ⟨v, hv, -⟩
      cases hv
  | some v => simp [fillSlot_output hv, resolve_eq_ok_iff]

theorem fillSlots_cons_eq_ok_iff {slot : Slot} {rest : List Slot} {x : slot.Filling (Operand τ)}
    {xs : Operands (Operand τ) rest} : (supply env).fillSlots op (slot :: rest) seen = .ok (x, xs) all ↔
      ∃ mid, (supply env).fillSlot op slot seen = .ok x mid ∧ (supply env).fillSlots op rest mid = .ok xs all := by
  constructor
  · intro h
    rw [Supply.fillSlots, bind_apply] at h
    cases hx : (supply env).fillSlot op slot seen with
    | error e mid => rw [hx] at h; cases h
    | ok x' mid =>
      rw [hx] at h
      dsimp only at h
      rw [bind_apply] at h
      cases hxs : (supply env).fillSlots op rest mid with
      | error e all' => rw [hxs] at h; cases h
      | ok xs' all' =>
        rw [hxs] at h
        cases h
        exact ⟨mid, rfl, hxs⟩
  · rintro ⟨mid, hx, hxs⟩
    exact fillSlots_cons hx hxs

end

end Lookup

namespace Session

variable {σ τ : Type}

theorem Names.fillSlot_input {s : Session σ τ} {op : Operation} {key : String} {t : τ} {seen : List Literal}
    (h : s.Names (op.input? key) t) :
    (Lookup.supply s.bindings.find?).fillSlot op (.input key) seen = .ok (.bound t) seen := by
  obtain ⟨name, hv, ht⟩ := h
  exact (Lookup.fillSlot_input hv).trans (Lookup.resolve_of_bound ht)

theorem Names.fillSlot_output {s : Session σ τ} {op : Operation} {key : String} {t : τ} {seen : List Literal}
    (h : s.Names (op.output? key) t) :
    (Lookup.supply s.bindings.find?).fillSlot op (.output key) seen = .ok (.bound t) seen := by
  obtain ⟨name, hv, ht⟩ := h
  exact (Lookup.fillSlot_output hv).trans (Lookup.resolve_of_bound ht)

/-- names of bound tensors as input and output are found, and no literals -/
theorem Names.fillSlots {s : Session σ τ} {op : Operation} {input output : τ}
    (hinput : s.Names (op.input? "input") input) (houtput : s.Names (op.output? "output") output) :
    (Lookup.supply s.bindings.find?).fillSlots op [.input "input", .output "output"] [] =
      .ok (.bound input, .bound output, ()) [] :=
  Lookup.fillSlots_cons hinput.fillSlot_input (Lookup.fillSlots_cons houtput.fillSlot_output rfl)

end Session

/-! ## Decisions -/

section

variable {τ : Type} {o : Operator} {env : String → Option τ} {op : Operation}
  {xs : Operands (Operand τ) o.signature} {ls : List Literal}

/-- with its operands found, an operation is decided by its check and its plan -/
theorem decision_eq_ok_iff [Handle τ] (h : (Lookup.supply env).fillSlots op o.signature [] = .ok xs ls)
    {i : Instruction (Operand τ)} :
    (o.decision env op).outcome = .ok i ↔ o.precheck op = .ok () ∧ o.plan op xs = .ok i := by
  unfold Operator.decision
  cases hp : o.precheck op with
  | error e => exact ⟨nofun, fun h => nomatch h.1⟩
  | ok u =>
    dsimp only
    rw [h]
    exact ⟨fun h => ⟨rfl, h⟩, fun h => h.2⟩

/-- with its check passed and its operands found, an operation is decided by its plan -/
theorem decision_of_found [Handle τ] (hcheck : o.precheck op = .ok ())
    (h : (Lookup.supply env).fillSlots op o.signature [] = .ok xs ls) : o.decision env op = ⟨ls, o.plan op xs⟩ := by
  rw [Operator.decision, hcheck]
  dsimp only
  rw [h]

/-- the literals that were seen are those of the operation -/
theorem literals_eq_of_found (h : (Lookup.supply env).fillSlots op o.signature [] = .ok xs ls) :
    o.literals op = ls := by
  have hs := Lookup.sees_fillSlots env op o.signature []
  rw [h] at hs
  exact hs.symm

end

namespace Session

variable {s s' : Session Recorder BufferRef} {o : Operator} {op : Operation}

/-! ## Performing -/

/-- an operation that fails before it needs a literal leaves the session as it was -/
theorem perform_of_undecided {e : RunError} (hs : s.scratch = []) (hconcrete : op.dtype.isConcrete = true)
    (h : o.decision s.bindings.find? op = ⟨[], .error e⟩) : perform o op s = .error e s := by
  have hdispatch : dispatch o op s = .error e s := by
    rw [dispatch_eq, h]
    rfl
  have hrelease : releaseScratch s = .ok () s := by
    obtain ⟨engine, bindings, reserved, scratch, requests⟩ := s
    obtain rfl : scratch = [] := hs
    rfl
  rw [perform, if_pos hconcrete, both, hdispatch]
  dsimp only
  rw [hrelease]

/-- on a recorder without failures, an operation that is decided to fail does so once the literals it has seen are
stored, and leaves nothing but their storing and releasing -/
theorem perform_of_decided {ls : List Literal} {e : RunError} (hs : s.scratch = []) (hfail : s.engine.failOn = none)
    (hconcrete : op.dtype.isConcrete = true) (h : o.decision s.bindings.find? op = ⟨ls, .error e⟩) :
    ∃ s', perform o op s = .error e s' ∧
      s'.engine.log.toList = s.engine.log.toList ++ literalCalls s.engine.buffers.size ls ++
        (List.range' s.engine.buffers.size ls.length).map Call.release ∧
      ∀ id, s'.engine.data? id = s.engine.data? id := by
  have hrefuses : ∀ p, ¬ s.engine.Refuses p := fun p hp => nomatch hfail.symm.trans hp
  have hdispatch : dispatch o op s = .error e (s.storing ls) := by
    rw [dispatch_eq, h, bind_apply]
    rcases storeLiterals_cases ls s with hstore | ⟨p, -, -, -, hr, -⟩
    · rw [hstore]
      rfl
    · exact absurd hr (hrefuses p)
  obtain ⟨s', hrelease, hlog, hdata⟩ := releaseScratch_of_stored hs (stored_storing s ls) (hrefuses .release)
  rw [allocated_literalCalls] at hlog
  refine ⟨s', ?_, hlog, hdata⟩
  rw [perform, if_pos hconcrete, both, hdispatch]
  dsimp only
  rw [hrelease]

/-- **What goes well.** On a recorder without failures an operation of a concrete kind goes well if it comes to a
request that is accepted once its literals are stored. -/
theorem perform_eq_ok_iff (hs : s.scratch = []) (hfail : s.engine.failOn = none) :
    perform o op s = .ok () s' ↔ op.dtype.isConcrete = true ∧ ∃ i, (o.decision s.bindings.find? op).outcome = .ok i ∧
      (s.engine.storing (o.literals op)).Accepts (i.map (Operand.ref s.engine.buffers.size)) ∧
      s' = s.performed (o.literals op) (i.map (Operand.ref s.engine.buffers.size)) := by
  have hrefuses : ∀ p, ¬ s.engine.Refuses p := fun p hp => nomatch hfail.symm.trans hp
  rcases perform_of_releasing o op hs (hrefuses .release) with
    ⟨i, hconcrete, hd, haccepts, h⟩ | ⟨e, u, stored, h, hwhy, -⟩
  · rw [h]
    constructor
    · intro h
      cases h
      exact ⟨hconcrete, i, hd, haccepts, rfl⟩
    · rintro ⟨-, i', hd', -, rfl⟩
      cases hd.symm.trans hd'
      rfl
  · rw [h]
    refine ⟨nofun, ?_⟩
    rintro ⟨hconcrete, i, hd, haccepts, -⟩
    rcases hwhy hconcrete with ⟨p, hp⟩ | hrejects
    · exact absurd hp (hrefuses p)
    · exact absurd haccepts (hrejects i hd)

/-- **What goes well by name.** An operation of a kernel goes well if its kind is concrete, its check passes and there
is a plan on its operands. -/
theorem performNamed_eq_ok_iff {name : String} (hs : s.scratch = []) (hfail : s.engine.failOn = none)
    (hname : Operator.named? op.name = some ⟨name, o⟩) (hcomputes : o.computes = true)
    {xs : Operands (Operand BufferRef) o.signature} {ls : List Literal}
    (hfound : (Lookup.supply s.bindings.find?).fillSlots op o.signature [] = .ok xs ls) :
    performNamed op s = .ok () s' ↔ op.dtype.isConcrete = true ∧ o.precheck op = .ok () ∧ ∃ i, o.plan op xs = .ok i ∧
      s' = s.performed ls (i.map (Operand.ref s.engine.buffers.size)) := by
  have hls := literals_eq_of_found hfound
  rw [performNamed, hname]
  dsimp only
  rw [perform_eq_ok_iff hs hfail, hls]
  constructor
  · rintro ⟨hconcrete, i, hd, -, h⟩
    obtain ⟨hcheck, hplan⟩ := (decision_eq_ok_iff hfound).1 hd
    exact ⟨hconcrete, hcheck, i, hplan, h⟩
  · rintro ⟨hconcrete, hcheck, i, hplan, h⟩
    have hkernel := Operator.plans_plan hcomputes op xs
    rw [hplan] at hkernel
    obtain ⟨k, rfl⟩ := hkernel
    refine ⟨hconcrete, _, (decision_eq_ok_iff hfound).2 ⟨hcheck, hplan⟩, ?_, h⟩
    intro hrefuses
    exact nomatch hfail.symm.trans ((s.engine.failOn_storing ls).symm.trans hrefuses)

/-- an operation of a kernel goes well if its kind is concrete, its check passes, its operands are found and there is a
plan on them -/
theorem performNamed_eq_ok_iff_exists {name : String} (hs : s.scratch = []) (hfail : s.engine.failOn = none)
    (hname : Operator.named? op.name = some ⟨name, o⟩) (hcomputes : o.computes = true) :
    performNamed op s = .ok () s' ↔ op.dtype.isConcrete = true ∧ o.precheck op = .ok () ∧
      ∃ xs ls, (Lookup.supply s.bindings.find?).fillSlots op o.signature [] = .ok xs ls ∧
        ∃ i, o.plan op xs = .ok i ∧ s' = s.performed ls (i.map (Operand.ref s.engine.buffers.size)) := by
  constructor
  · intro h
    have hperform : perform o op s = .ok () s' := by rwa [performNamed, hname] at h
    obtain ⟨-, i, hd, -⟩ := (perform_eq_ok_iff hs hfail).1 hperform
    obtain ⟨xs, hfound, -⟩ := plan_of_decision hd
    obtain ⟨hconcrete, hcheck, hplan⟩ := (performNamed_eq_ok_iff hs hfail hname hcomputes hfound).1 h
    exact ⟨hconcrete, hcheck, xs, _, hfound, hplan⟩
  · rintro ⟨hconcrete, hcheck, xs, ls, hfound, hplan⟩
    exact (performNamed_eq_ok_iff hs hfail hname hcomputes hfound).2 ⟨hconcrete, hcheck, hplan⟩

/-- what is in the log after an operation that went well -/
theorem log_performed (s : Session Recorder BufferRef) (ls : List Literal) (i : Instruction BufferRef) :
    (s.performed ls i).engine.log.toList =
      s.engine.log.toList ++ literalCalls s.engine.buffers.size ls ++ i.calls ++
        (List.range' s.engine.buffers.size ls.length).map Call.release := by
  rw [performed, Recorder.log_releasing, log_following]

/-- without literals, the request is all that is added -/
theorem log_performed_nil (s : Session Recorder BufferRef) (i : Instruction BufferRef) :
    (s.performed [] i).engine.log.toList = s.engine.log.toList ++ i.calls := by
  rw [log_performed, literalCalls, List.append_nil, List.length_nil, List.range'_zero, List.map_nil, List.append_nil]

/-- whatever always fails, an operation that goes well leaves the literals stored, its request made, and the scratch
tensors released -/
theorem log_of_perform_ok (hs : s.scratch = []) (h : perform o op s = .ok () s') :
    ∃ i, (o.decision s.bindings.find? op).outcome = .ok i ∧
      s'.engine.log.toList = s.engine.log.toList ++ literalCalls s.engine.buffers.size (o.literals op) ++
        (i.map (Operand.ref s.engine.buffers.size)).calls ++
          (List.range' s.engine.buffers.size (o.literals op).length).map Call.release := by
  by_cases hr : s.engine.Refuses .release
  · rcases perform_of_refusing o op hs hr with ⟨u, i, hd, hengine, hu⟩ | ⟨e, u, stored, hu, -⟩
    · rw [hu] at h
      -- a scratch tensor could not be released, so there is none
      by_cases hls : o.literals op = []
      · rw [if_pos hls] at h
        cases h
        refine ⟨i, hd, ?_⟩
        rw [hengine, log_following, hls, List.length_nil, List.range'_zero, List.map_nil, List.append_nil]
      · rw [if_neg hls] at h
        cases h
    · cases hu.symm.trans h
  · rcases perform_of_releasing o op hs hr with ⟨i, -, hd, -, hu⟩ | ⟨e, u, stored, hu, -⟩
    · cases hu.symm.trans h
      exact ⟨i, hd, log_performed ..⟩
    · cases hu.symm.trans h

/-- an operation that goes well as described goes well if something is described, and leaves the literals stored, the
request described, and the scratch tensors released -/
theorem performNamed_described {α β : Type} {D : α → β → Prop} {i : α → β → Instruction BufferRef} {ls : List Literal}
    (h : ∀ s', performNamed op s = .ok () s' ↔ ∃ a b, D a b ∧ s' = s.performed ls (i a b)) :
    ((∃ s', performNamed op s = .ok () s') ↔ ∃ a b, D a b) ∧
    ∀ a b, D a b → (reached (performNamed op s)).engine.log.toList =
      s.engine.log.toList ++ literalCalls s.engine.buffers.size ls ++ (i a b).calls ++
        (List.range' s.engine.buffers.size ls.length).map Call.release := by
  refine ⟨⟨?_, ?_⟩, fun a b hd => ?_⟩
  · rintro ⟨s', hs'⟩
    obtain ⟨a, b, hd, -⟩ := (h s').1 hs'
    exact ⟨a, b, hd⟩
  · rintro ⟨a, b, hd⟩
    exact ⟨_, (h _).2 ⟨a, b, hd, rfl⟩⟩
  · rw [(h _).2 ⟨a, b, hd, rfl⟩, reached_ok, log_performed]

end Session

end TensorGraph
