/-
What operations move between tensors, read off their operands.

Model: three sorts of operators write to a tensor by means of storage: constants fill their output, and reshaping and
updating copy one tensor into another. `Operator.transfer?` and `Operation.constantData?` say, from the text of an
operation alone, what is moved where.

Main result: `request_of_decision`, a decided request is idle, or a kernel, or the copy that `transfer?` says, or the
filling that `constantData?` says.
-/
import TensorGraph.Proofs.Decision
import TensorGraph.Proofs.Elements

namespace TensorGraph

/-! ## Model -/

/-- the values between which an operator copies elements, from the first to the second -/
def Operator.transfer? (o : Operator) (op : Operation) : Option (Value × Value) :=
  match o with
  | .reshape => do return (← op.input? "input", ← op.output? "output")
  | .update => do return (← op.input? "value", ← op.output? "result")
  | _ => none

/-- what a constant puts into a tensor of a kind and a size: each of its items, or its single item in every place -/
def Operation.constantData? (op : Operation) (kind : ElementKind) (size : Nat) : Option Payload := do
  let v ← op.attribute? "value"
  let items ← v.listed.mapM (Value.coerce? kind)
  if items.length = size then Payload.ofElements? kind items else Payload.spread? kind size items

/-- an operand that was looked up for a value -/
def Operand.StandsFor {τ : Type} (env : String → Option τ) (seen : List Literal) (v : Value) : Operand τ → Prop
  | .bound t => ∃ name, v = .identifier name ∧ env name = some t
  | .literal number l => v.literal? = some l ∧ seen[number]? = some l

/-! ## Operands of values -/

section

variable {τ : Type} {env : String → Option τ}

theorem Operand.StandsFor.mono {seen all : List Literal} (h : seen <+: all) {v : Value} {x : Operand τ}
    (hx : x.StandsFor env seen v) : x.StandsFor env all v := by
  cases x with
  | bound t => exact hx
  | literal number l =>
    obtain ⟨hv, hl⟩ := hx
    have hfound : (Operand.literal number l : Operand τ).IsFound env seen := hl
    exact ⟨hv, hfound.mono h⟩

namespace Lookup

theorem resolve_ok {op : Operation} {key : String} {v : Value} {seen all : List Literal} {x : Operand τ}
    (h : (supply env).resolve op key v seen = .ok x all) : x.StandsFor env all v := by
  cases v with
  | identifier name =>
    rw [Supply.resolve, supply_named] at h
    cases hn : env name with
    | none => rw [hn] at h; cases h
    | some t => rw [hn] at h; cases h; exact ⟨name, rfl, hn⟩
  | scalar a => cases h; exact ⟨rfl, List.getElem?_concat_length⟩
  | integer n => cases h; exact ⟨rfl, List.getElem?_concat_length⟩
  | logical b => cases h; exact ⟨rfl, List.getElem?_concat_length⟩
  | string text => cases h
  | array items => cases h
  | tuple items => cases h

/-- the first slot is filled before the others -/
theorem fillSlots_cons_ok {op : Operation} {slot : Slot} {rest : List Slot} {seen all : List Literal}
    {xs : Operands (Operand τ) (slot :: rest)} (h : (supply env).fillSlots op (slot :: rest) seen = .ok xs all) :
    ∃ mid, (supply env).fillSlot op slot seen = .ok xs.1 mid ∧ mid <+: all ∧
      (supply env).fillSlots op rest mid = .ok xs.2 all := by
  unfold Supply.fillSlots at h
  rw [bind_apply] at h
  cases hx : (supply env).fillSlot op slot seen with
  | error e mid => rw [hx] at h; cases h
  | ok x mid =>
    rw [hx] at h
    dsimp only at h
    rw [bind_apply] at h
    cases hxs : (supply env).fillSlots op rest mid with
    | error e last => rw [hxs] at h; cases h
    | ok xs' last =>
      rw [hxs] at h
      cases h
      have hprefix := ((finding env).fillSlots op rest mid).1
      rw [hxs] at hprefix
      exact ⟨mid, rfl, hprefix, hxs⟩

theorem fillSlot_input_ok {op : Operation} {key : String} {seen all : List Literal} {x : Operand τ}
    (h : (supply env).fillSlot op (.input key) seen = .ok x all) :
    ∃ v, op.input? key = some v ∧ x.StandsFor env all v := by
  rw [Supply.fillSlot, bind_apply] at h
  cases hv : op.input? key with
  | none => rw [hv] at h; cases h
  | some v => rw [hv] at h; exact ⟨v, rfl, resolve_ok h⟩

theorem fillSlot_output_ok {op : Operation} {key : String} {seen all : List Literal} {x : Operand τ}
    (h : (supply env).fillSlot op (.output key) seen = .ok x all) :
    ∃ v, op.output? key = some v ∧ x.StandsFor env all v := by
  rw [Supply.fillSlot, bind_apply] at h
  cases hv : op.output? key with
  | none => rw [hv] at h; cases h
  | some v => rw [hv] at h; exact ⟨v, rfl, resolve_ok h⟩

end Lookup

end

/-! ## Requests -/

section

variable {τ : Type} [Handle τ]

omit [Handle τ] in
theorem constantData?_of_payload {op : Operation} {kind : ElementKind} {size : Nat} {v : Value} {p : Payload}
    (hv : op.attribute? "value" = some v) (hp : op.payloadOfKind kind v = .ok p) :
    op.constantData? kind size = if p.length = size then some p else p.broadcast size := by
  obtain ⟨rfl, hitems⟩ := Operation.payloadOfKind_eq_ok_iff.1 hp
  simp only [Operation.constantData?, hv, mapM_eq_some_iff.2 hitems, p.length_elements, p.spread?_elements,
    Payload.ofElements?_eq_some_iff.2 ⟨rfl, rfl⟩, Option.bind_eq_bind, Option.bind_some]

theorem planConstant_ok {op : Operation} {y : τ} {i : Instruction τ} (h : op.planConstant y = .ok i) :
    ∃ p, i = .fill y p ∧ op.constantData? (Handle.kind y) (Handle.volume y) = some p := by
  unfold Operation.planConstant at h
  cases hv : op.attribute? "value" with
  | none => rw [hv] at h; cases h
  | some v =>
    rw [hv] at h
    cases hp : op.payloadOfKind (Handle.kind y) v with
    | error e => simp only [hp] at h; cases h
    | ok p =>
      simp only [hp] at h
      change (if p.length = Handle.volume y then _ else _) = _ at h
      rw [constantData?_of_payload hv hp]
      by_cases hlen : p.length = Handle.volume y
      · rw [if_pos hlen] at h ⊢
        cases h
        exact ⟨p, rfl, rfl⟩
      · rw [if_neg hlen] at h ⊢
        cases hq : p.broadcast (Handle.volume y) with
        | none => rw [hq] at h; cases h
        | some q => rw [hq] at h; cases h; exact ⟨q, rfl, rfl⟩

omit [Handle τ] in
/-- the data of a constant has the kind and the size that were asked for -/
theorem kind_of_constantData? {op : Operation} {kind : ElementKind} {size : Nat} {p : Payload}
    (h : op.constantData? kind size = some p) : p.kind = kind ∧ p.length = size := by
  simp only [Operation.constantData?, Option.bind_eq_bind, Option.bind_eq_some_iff] at h
  obtain ⟨v, -, items, -, h⟩ := h
  split_ifs at h with hlen
  · obtain ⟨hkind, hlength⟩ := Payload.kind_of_ofElements? h
    exact ⟨hkind, hlength.trans hlen⟩
  · exact Payload.kind_of_spread? h

variable {o : Operator} {env : String → Option τ} {op : Operation} {i : Instruction (Operand τ)}

/-- an operator that copies does so between the operands that its operation names -/
theorem transfer_of_decision (h : (o.decision env op).outcome = .ok i) (ho : o = .reshape ∨ o = .update) :
    ∃ v w x y, o.transfer? op = some (v, w) ∧ i = .copy x y ∧
      x.StandsFor env (o.decision env op).literals v ∧ y.StandsFor env (o.decision env op).literals w := by
  obtain ⟨xs, hxs, hplan⟩ := plan_of_decision h
  rcases ho with rfl | rfl
  · obtain ⟨seen, h₁, hprefix, hrest⟩ := Lookup.fillSlots_cons_ok hxs
    obtain ⟨seen', h₂, hprefix', -⟩ := Lookup.fillSlots_cons_ok hrest
    obtain ⟨v, hv, hx⟩ := Lookup.fillSlot_input_ok h₁
    obtain ⟨w, hw, hy⟩ := Lookup.fillSlot_output_ok h₂
    cases hplan
    refine ⟨v, w, xs.1, xs.2.1, ?_, rfl, hx.mono hprefix, hy.mono hprefix'⟩
    simp [Operator.transfer?, hv, hw]
  · obtain ⟨seen, -, -, hrest⟩ := Lookup.fillSlots_cons_ok hxs
    obtain ⟨seen', h₁, hprefix, hrest'⟩ := Lookup.fillSlots_cons_ok hrest
    obtain ⟨seen'', h₂, hprefix', -⟩ := Lookup.fillSlots_cons_ok hrest'
    obtain ⟨v, hv, hx⟩ := Lookup.fillSlot_input_ok h₁
    obtain ⟨w, hw, hy⟩ := Lookup.fillSlot_output_ok h₂
    cases hplan
    refine ⟨v, w, xs.2.1, xs.2.2.1, ?_, rfl, hx.mono hprefix, hy.mono hprefix'⟩
    simp [Operator.transfer?, hv, hw]

/-- a constant fills the operand that its operation names as the output -/
theorem constant_of_decision (h : (Operator.decision .constant env op).outcome = .ok i) :
    ∃ w y p, op.output? "output" = some w ∧ i = .fill y p ∧
      y.StandsFor env (Operator.decision .constant env op).literals w ∧
      op.constantData? (Handle.kind y) (Handle.volume y) = some p := by
  obtain ⟨xs, hxs, hplan⟩ := plan_of_decision h
  obtain ⟨seen, h₁, hprefix, -⟩ := Lookup.fillSlots_cons_ok hxs
  obtain ⟨w, hw, hy⟩ := Lookup.fillSlot_output_ok h₁
  obtain ⟨p, rfl, hp⟩ := planConstant_ok (show op.planConstant xs.1 = .ok i from hplan)
  exact ⟨w, xs.1, p, hw, rfl, hy.mono hprefix, hp⟩

/-- **What an operation moves.** A decided request is nothing, or a kernel, or the copy of a transfer, or the filling of
a constant. -/
theorem request_of_decision (h : (o.decision env op).outcome = .ok i) :
    ((o = .external ∨ o = .parameter) ∧ i = .idle) ∨
    (o.computes = true ∧ i.IsKernel) ∨
    ((o = .reshape ∨ o = .update) ∧ ∃ v w x y, o.transfer? op = some (v, w) ∧ i = .copy x y ∧
      x.StandsFor env (o.decision env op).literals v ∧ y.StandsFor env (o.decision env op).literals w) ∨
    (o = .constant ∧ ∃ w y p, op.output? "output" = some w ∧ i = .fill y p ∧
      y.StandsFor env (o.decision env op).literals w ∧
      op.constantData? (Handle.kind y) (Handle.volume y) = some p) := by
  have hkernel : o.computes = true → i.IsKernel := by
    intro ho
    obtain ⟨xs, -, hplan⟩ := plan_of_decision h
    have hspec := Operator.plans_plan ho op xs
    rwa [hplan] at hspec
  have hidle : ∀ {xs}, o.plan op xs = .ok i → o = .external ∨ o = .parameter → i = .idle := by
    rintro xs hplan (rfl | rfl) <;>
    · cases hplan
      rfl
  obtain ⟨xs, -, hplan⟩ := plan_of_decision h
  cases o with
  | external => exact Or.inl ⟨Or.inl rfl, hidle hplan (Or.inl rfl)⟩
  | parameter => exact Or.inl ⟨Or.inr rfl, hidle hplan (Or.inr rfl)⟩
  | reshape => exact Or.inr (Or.inr (Or.inl ⟨Or.inl rfl, transfer_of_decision h (Or.inl rfl)⟩))
  | update => exact Or.inr (Or.inr (Or.inl ⟨Or.inr rfl, transfer_of_decision h (Or.inr rfl)⟩))
  | constant => exact Or.inr (Or.inr (Or.inr ⟨rfl, constant_of_decision h⟩))
  | unimplemented => cases hplan
  | _ => exact Or.inr (Or.inl ⟨rfl, hkernel rfl⟩)

/-- kernels are requested as the primitives that they are -/
theorem isNamed_of_decision (h : (o.decision env op).outcome = .ok i) : i.IsNamed := by
  rcases request_of_decision h with
    ⟨-, rfl⟩ | ⟨-, ⟨hname⟩⟩ | ⟨-, v, w, x, y, -, rfl, -⟩ | ⟨-, w, y, p, -, rfl, -⟩
  · trivial
  · exact hname
  · trivial
  · trivial

end

end TensorGraph
