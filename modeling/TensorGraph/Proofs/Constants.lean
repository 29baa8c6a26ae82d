/-
A constant fills its tensor exactly, or changes nothing.

Model: `Operation.Suits` says when the value of a constant fits a tensor, and `Payload.Spreads` what is then in it: each
item in its place, or the single item in every place.

Main result: `constant_fills_or_changes_nothing`.
-/
import TensorGraph.Proofs.Execution
import TensorGraph.Proofs.Transfer

namespace TensorGraph

/-! ## Model -/

/-- a constant whose value has an element for each place of a tensor, or a single one -/
def Operation.Suits (op : Operation) (kind : ElementKind) (size : Nat) : Prop :=
  ∃ v, op.attribute? "value" = some v ∧ (∀ item ∈ v.listed, (item.coerce? kind).isSome) ∧
    (v.listed.length = size ∨ v.listed.length = 1)

/-- elements that are the items of a list, or its single item in every place -/
structure Payload.Spreads (p : Payload) (items : List Value) (size : Nat) : Prop where
  length_eq : p.elements.length = size
  each : items.length = size → ∀ i < size, p.elements[i]? = items[i]?.bind (Value.coerce? p.kind)
  single : items.length ≠ size → ∀ i < size, p.elements[i]? = items[0]?.bind (Value.coerce? p.kind)

namespace Operation

variable {op : Operation}

/-! ## Places -/

/-- what is read has the items as its elements, place by place -/
theorem getElem?_of_payloadOfKind {kind : ElementKind} {v : Value} {p : Payload} (h : op.payloadOfKind kind v = .ok p) :
    p.elements.length = v.listed.length ∧ ∀ i : Nat, p.elements[i]? = v.listed[i]?.bind (Value.coerce? kind) := by
  obtain ⟨-, hitems⟩ := payloadOfKind_eq_ok_iff.1 h
  refine ⟨?_, fun i => ?_⟩
  · rw [← List.length_map some, ← hitems, List.length_map]
  · have hi : v.listed[i]?.map (Value.coerce? kind) = p.elements[i]?.map some := by
      rw [← List.getElem?_map, hitems, List.getElem?_map]
    calc p.elements[i]?
      _ = (p.elements[i]?.map some).bind id := by cases p.elements[i]? <;> rfl
      _ = v.listed[i]?.bind (Value.coerce? kind) := by
        rw [← hi, Option.bind_map]
        rfl

/-! ## Plans -/

section

variable {τ : Type} [Handle τ] {y : τ} {v : Value} {p : Payload}

theorem planConstant_of_payload (hv : op.attribute? "value" = some v)
    (hp : op.payloadOfKind (Handle.kind y) v = .ok p) : op.planConstant y =
      if p.length = Handle.volume y then .ok (.fill y p)
      else match p.broadcast (Handle.volume y) with
        | some payload => .ok (.fill y payload)
        | none =>
          .error (op.malformed "value" s!"{p.length} elements cannot fill a tensor of {Handle.volume y}") := by
  rw [planConstant, hv]
  dsimp only
  rw [hp]
  rfl

/-- a value that suits is planned as what it spreads to -/
theorem planConstant_of_suits (hkind : Handle.kind y ≠ .generic) (hv : op.attribute? "value" = some v)
    (hitems : ∀ item ∈ v.listed, (item.coerce? (Handle.kind y)).isSome)
    (hlength : v.listed.length = Handle.volume y ∨ v.listed.length = 1) :
    ∃ p, op.planConstant y = .ok (.fill y p) ∧ p.kind = Handle.kind y ∧ p.Spreads v.listed (Handle.volume y) := by
  obtain ⟨p, hp⟩ : ∃ p, op.payloadOfKind (Handle.kind y) v = .ok p := (exists_payloadOfKind_iff hkind).2 hitems
  obtain ⟨hpkind, -⟩ := payloadOfKind_eq_ok_iff.1 hp
  obtain ⟨hsame, hplace⟩ := getElem?_of_payloadOfKind hp
  rw [planConstant_of_payload hv hp, ← p.length_elements, hsame]
  by_cases hsize : v.listed.length = Handle.volume y
  · rw [if_pos hsize]
    exact ⟨p, rfl, hpkind, hsame.trans hsize, fun _ i _ => hpkind ▸ hplace i, fun hne => absurd hsize hne⟩
  · -- as there are too few or too many items, there is a single one, which is repeated
    rw [if_neg hsize]
    have hone : p.length = 1 := p.length_elements.symm.trans (hsame.trans (hlength.resolve_left hsize))
    obtain ⟨q, hq⟩ := Option.isSome_iff_exists.1 (Payload.broadcast_isSome_iff.2 hone)
    obtain ⟨l, hl, hqkind, hqs⟩ := Payload.elements_of_broadcast hq
    rw [hq]
    refine ⟨q, rfl, hqkind.trans hpkind, ?_, fun heq => absurd heq hsize, fun _ i hi => ?_⟩
    · rw [hqs, List.length_replicate]
    · rw [hqs, List.getElem?_replicate_of_lt hi, hqkind, hpkind, ← hplace 0, hl]
      rfl

/-- a value that does not suit is at fault -/
theorem planConstant_of_not_suits (hkind : Handle.kind y ≠ .generic)
    (h : ¬ op.Suits (Handle.kind y) (Handle.volume y)) :
    ∃ reason, op.planConstant y = .error (op.malformed "value" reason) := by
  cases hv : op.attribute? "value" with
  | none => exact ⟨"missing literal", by rw [planConstant, hv]⟩
  | some v =>
    cases hp : op.payloadOfKind (Handle.kind y) v with
    | error e =>
      obtain ⟨reason, rfl⟩ := payloadOfKind_eq_error hkind hp
      refine ⟨reason, ?_⟩
      rw [planConstant, hv]
      dsimp only
      rw [hp]
      rfl
    | ok p =>
      obtain ⟨hsame, -⟩ := getElem?_of_payloadOfKind hp
      have hlength : ¬ (p.length = Handle.volume y ∨ p.length = 1) := fun hlength => by
        rw [← p.length_elements, hsame] at hlength
        exact h ⟨v, hv, (exists_payloadOfKind_iff hkind).1 ⟨p, hp⟩, hlength⟩
      obtain ⟨hsize, hone⟩ := not_or.1 hlength
      have hnone : p.broadcast (Handle.volume y) = none := by
        rwa [← Option.not_isSome_iff_eq_none, Payload.broadcast_isSome_iff]
      rw [planConstant_of_payload hv hp, if_neg hsize, hnone]
      exact ⟨_, rfl⟩

end

/-! ## Values that do not suit -/

variable {kind : ElementKind} {size : Nat}

theorem not_suits_of_missing (h : op.attribute? "value" = none) : ¬ op.Suits kind size := by
  rintro ⟨v, hv, -⟩
  rw [h] at hv
  cases hv

/-- a value with an item that is no element of the kind -/
theorem not_suits_of_item {v item : Value} (hv : op.attribute? "value" = some v) (hitem : item ∈ v.listed)
    (h : item.coerce? kind = none) : ¬ op.Suits kind size := by
  rintro ⟨v', hv', hall, -⟩
  obtain rfl := Option.some.inj (hv.symm.trans hv')
  have hsome := hall item hitem
  rw [h] at hsome
  cases hsome

theorem not_suits_of_empty (hv : op.attribute? "value" = some (.array [])) (hsize : 0 < size) :
    ¬ op.Suits kind size := by
  rintro ⟨v, hv', -, hlength⟩
  obtain rfl := Option.some.inj (hv.symm.trans hv')
  rcases hlength with hlength | hlength
  · exact absurd hlength (Nat.ne_of_lt hsize)
  · cases hlength

end Operation

/-! ## Performing -/

namespace Session

variable {s : Session Recorder BufferRef} {op : Operation} {t : BufferRef}

theorem performNamed_constant (hname : op.name = "constant") : performNamed op s = perform .constant op s := by
  have hfound : Operator.named? op.name = some ⟨"constant", .constant⟩ := by
    rw [hname]
    decide +kernel
  rw [performNamed, hfound]

/-- the name of a bound tensor is found, and no literals -/
theorem fillSlots_constant (houtput : s.Names (op.output? "output") t) :
    (Lookup.supply s.bindings.find?).fillSlots op (Operator.signature .constant) [] = .ok (.bound t, ()) [] :=
  Lookup.fillSlots_cons houtput.fillSlot_output rfl

/-- a constant for a bound tensor is decided by its plan -/
theorem decision_constant (houtput : s.Names (op.output? "output") t) :
    Operator.decision .constant s.bindings.find? op = ⟨[], op.planConstant (.bound t)⟩ :=
  decision_of_found (o := .constant) rfl (fillSlots_constant houtput)

/-- what a name stands for is held -/
theorem Names.mem_held {v : Option Value} (h : s.Names v t) : t ∈ s.held := by
  obtain ⟨name, -, ht⟩ := h
  exact List.mem_append_left _ (NameMap.mem_values_of_find? ht)

section

variable (hs : s.scratch = []) (hname : op.name = "constant") (hconcrete : op.dtype.isConcrete = true)
  (houtput : s.Names (op.output? "output") t)

include hs hname hconcrete houtput

/-- a value that suits a live tensor is filled in -/
theorem performNamed_constant_of_suits (hfail : s.engine.failOn = none) {old : Payload}
    (hold : s.engine.data? t.id = some old) (hkind : old.kind = t.kind) (hlength : old.length = volume t.shape)
    {v : Value} (hv : op.attribute? "value" = some v) (h : op.Suits t.kind (volume t.shape)) :
    ∃ p, p.kind = t.kind ∧ p.Spreads v.listed (volume t.shape) ∧
      performNamed op s = .ok () (s.performed [] (.fill t p)) := by
  obtain ⟨v', hv', hitems, hcount⟩ := h
  obtain rfl := Option.some.inj (hv.symm.trans hv')
  have hgeneric : t.kind ≠ .generic := hkind ▸ old.kind_ne_generic
  obtain ⟨p, hplan, hpkind, hspreads⟩ :=
    Operation.planConstant_of_suits (y := Operand.bound t) hgeneric hv hitems hcount
  have hfits : Recorder.fits old p = true := Recorder.fits_iff.2
    ⟨hkind.trans hpkind.symm, hlength.trans (hspreads.length_eq.symm.trans p.length_elements)⟩
  have hliterals : Operator.literals .constant op = [] := literals_eq_of_found (fillSlots_constant houtput)
  refine ⟨p, hpkind, hspreads, ?_⟩
  rw [performNamed_constant hname, perform_eq_ok_iff hs hfail, hliterals, decision_constant houtput]
  refine ⟨hconcrete, _, hplan, ⟨fun hrefuses => ?_, old, hold, hfits⟩, rfl⟩
  cases hfail.symm.trans hrefuses

/-- a value that does not suit is at fault before anything is asked of the engine -/
theorem performNamed_constant_of_not_suits (hkind : t.kind ≠ .generic) (h : ¬ op.Suits t.kind (volume t.shape)) :
    ∃ reason, performNamed op s = .error (.malformedOperand "constant" "value" reason) s := by
  obtain ⟨reason, hplan⟩ := Operation.planConstant_of_not_suits (y := Operand.bound t) hkind h
  refine ⟨reason, ?_⟩
  rw [performNamed_constant hname, ← hname]
  exact perform_of_undecided hs hconcrete ((decision_constant houtput).trans (congrArg _ hplan))

end

end Session

/-! ## Main result -/

open Session in
/-- **A constant fills its tensor or changes nothing.** Take any session on a recorder without failures, whatever its
history, and a constant of a concrete kind whose output is the name of a bound tensor. It goes well exactly if all items
of its value are of the kind of the tensor, whatever its own kind is, and are as many as the tensor has elements, or a
single one. Then one request to fill is logged. The tensor has each item in its place, or the single item in every
place, and no other buffer is changed.

Otherwise the value is at fault, and the session stays as it is. This is so if there is no value, or if it is a tuple,
or has an array in an array, or is an empty array for a tensor that has elements. -/
theorem constant_fills_or_changes_nothing (history : List Step) {op : Operation} (hname : op.name = "constant")
    (hconcrete : op.dtype.isConcrete = true) {t : BufferRef}
    (houtput : ((fresh none).after history).Names (op.output? "output") t) :
    let s := (fresh none).after history
    let size := volume t.shape
    ((∃ s', performNamed op s = .ok () s') ↔ op.Suits t.kind size) ∧
    (∀ v s', op.attribute? "value" = some v → performNamed op s = .ok () s' →
      s'.engine.log.toList = s.engine.log.toList ++ [.fill t.id] ∧
      ∃ p, p.kind = t.kind ∧ p.Spreads v.listed size ∧
        ∀ id, s'.engine.data? id = if t.id = id then some p else s.engine.data? id) ∧
    (¬ op.Suits t.kind size →
      ∃ reason, performNamed op s = .error (.malformedOperand "constant" "value" reason) s) ∧
    (op.attribute? "value" = none ∨ (∃ items, op.attribute? "value" = some (.tuple items)) ∨
      (∃ items inner, op.attribute? "value" = some (.array items) ∧ .array inner ∈ items) ∨
      (op.attribute? "value" = some (.array []) ∧ 0 < size) → ¬ op.Suits t.kind size) := by
  intro s size
  obtain ⟨hcoupled, hscratch⟩ := coupled_after none history
  obtain ⟨old, hold, hkind, hlength⟩ := hcoupled.live t houtput.mem_held
  have hsuits : ∀ {v}, op.attribute? "value" = some v → op.Suits t.kind size → ∃ p, p.kind = t.kind ∧
      p.Spreads v.listed size ∧ performNamed op s = .ok () (s.performed [] (.fill t p)) :=
    performNamed_constant_of_suits hscratch hname hconcrete houtput hcoupled.failOn_eq hold hkind hlength
  have hnot : ¬ op.Suits t.kind size →
      ∃ reason, performNamed op s = .error (.malformedOperand "constant" "value" reason) s :=
    performNamed_constant_of_not_suits hscratch hname hconcrete houtput (hkind ▸ old.kind_ne_generic)
  have hok : (∃ s', performNamed op s = .ok () s') ↔ op.Suits t.kind size := by
    constructor
    · rintro ⟨s', hs'⟩
      by_contra h
      obtain ⟨reason, herror⟩ := hnot h
      cases hs'.symm.trans herror
    · intro h
      obtain ⟨v, hv, -⟩ := id h
      obtain ⟨p, -, -, hs'⟩ := hsuits hv h
      exact ⟨_, hs'⟩
  refine ⟨hok, fun v s' hv hs' => ?_, hnot, ?_⟩
  · obtain ⟨p, hpkind, hspreads, hp⟩ := hsuits hv (hok.1 ⟨s', hs'⟩)
    cases hs'.symm.trans hp
    rw [log_performed_nil]
    exact ⟨rfl, p, hpkind, hspreads, Recorder.data?_setting_of_some hold _ _⟩
  · rintro (hnone | ⟨items, htuple⟩ | ⟨items, inner, harray, hinner⟩ | ⟨hempty, hpos⟩)
    · exact Operation.not_suits_of_missing hnone
    · exact Operation.not_suits_of_item htuple (List.mem_singleton_self _) (by cases t.kind <;> rfl)
    · exact Operation.not_suits_of_item harray hinner (by cases t.kind <;> rfl)
    · exact Operation.not_suits_of_empty hempty hpos

open Session in
/-- integers for a tensor of integers, in a constant of another kind, and an empty array for the same tensor -/
theorem constant_fills_element_by_element :
    let history : List Step := [.create ⟨"k", .integer, [3], none⟩]
    let op := (Operation.named "constant" .float).withOutput "output" (.identifier "k")
    let filling := op.withAttribute "value" (.ofIntegers [7, 8, 9])
    let empty := op.withAttribute "value" (.array [])
    let s := (fresh none).after history
    (filling.name = "constant" ∧ filling.dtype.isConcrete = true ∧
      s.Names (filling.output? "output") ⟨0, .integer, [3]⟩ ∧ filling.Suits .integer 3 ∧
      ∃ s' p, performNamed filling s = .ok () s' ∧ s'.engine.log.toList = s.engine.log.toList ++ [.fill 0] ∧
        s'.engine.data? 0 = some p ∧ p.elements[1]? = some (.integer 8)) ∧
    s.Names (empty.output? "output") ⟨0, .integer, [3]⟩ ∧ ¬ empty.Suits .integer 3 ∧
      ∃ reason, performNamed empty s = .error (.malformedOperand "constant" "value" reason) s := by
  intro history op filling empty s
  have hnames : s.Names (op.output? "output") ⟨0, .integer, [3]⟩ := ⟨"k", by decide +kernel, by decide +kernel⟩
  have hvalue : filling.attribute? "value" = some (.ofIntegers [7, 8, 9]) := by decide +kernel
  have hsuits : filling.Suits .integer 3 := ⟨_, hvalue, by decide, Or.inl rfl⟩
  have hfilling : filling.name = "constant" := rfl
  have hempty : empty.name = "constant" := rfl
  obtain ⟨hok, hfilled, -, -⟩ := constant_fills_or_changes_nothing history hfilling rfl hnames
  obtain ⟨-, -, hrefused, hothers⟩ := constant_fills_or_changes_nothing history hempty rfl hnames
  have hnot : ¬ empty.Suits .integer 3 :=
    hothers (Or.inr (Or.inr (Or.inr ⟨by decide +kernel, by decide⟩)))
  obtain ⟨s', hs'⟩ := hok.2 hsuits
  obtain ⟨hlog, p, hkind, hspreads, hdata⟩ := hfilled _ s' hvalue hs'
  have hsecond : p.elements[1]? = some (.integer 8) := by
    rw [hspreads.each rfl 1 (by decide), hkind]
    rfl
  exact ⟨⟨hfilling, rfl, hnames, hsuits, s', p, hs', hlog, hdata 0, hsecond⟩, hnames, hnot, hrefused hnot⟩

end TensorGraph
