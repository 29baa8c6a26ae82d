/-
What deciding an operation comes to: what was expected, or a complaint about the operation.

Model: `Plans P x` says that a decision `x` gives something with the property `P`, or else complains. A complaint is
about the operation itself: an operand or attribute that is not what it should be, something that is not implemented,
or a kind that has no elements. `PlansIf` also says when it may be about a kind. Decisions are put together from readers
of attributes, so each reader gets one lemma.

Main results:
- `plans_plan`: an operator that computes makes a request to compute, or complains;
- `complainsIf_plan`: it complains about a kind only if the kind of the operation or of an operand is the open one.
-/
import TensorGraph.Operator.Plan
import TensorGraph.Proofs.Handles

namespace TensorGraph

/-! ## Model -/

/-- faults of an operation itself, whatever the engine does and whatever is bound -/
def RunError.IsComplaint : RunError → Prop
  | .malformedOperand .. | .unsupportedOperation .. | .unsupportedKind .. => True
  | _ => False

/-- faults of an operation itself, about a kind only if there is an open one -/
def RunError.IsComplaintIf (kindless : Prop) : RunError → Prop
  | .malformedOperand .. | .unsupportedOperation .. => True
  | .unsupportedKind .. => kindless
  | _ => False

theorem RunError.IsComplaintIf.isComplaint {kindless : Prop} {e : RunError} (h : e.IsComplaintIf kindless) :
    e.IsComplaint := by
  cases e <;> trivial

theorem RunError.IsComplaintIf.mono {kindless kindless' : Prop} (hmono : kindless → kindless') {e : RunError}
    (h : e.IsComplaintIf kindless) : e.IsComplaintIf kindless' := by
  cases e <;> first | exact h | exact hmono h

/-- a decision for something with a property, or a complaint -/
def Plans {α : Type} (P : α → Prop) : Except RunError α → Prop
  | .ok a => P a
  | .error e => e.IsComplaint

/-- a decision that complains if it fails -/
abbrev Complains {α : Type} (x : Except RunError α) : Prop := Plans (fun _ => True) x

/-- a decision for something with a property, or a complaint that is about a kind only if there is an open one -/
def PlansIf (kindless : Prop) {α : Type} (P : α → Prop) : Except RunError α → Prop
  | .ok a => P a
  | .error e => e.IsComplaintIf kindless

abbrev ComplainsIf (kindless : Prop) {α : Type} (x : Except RunError α) : Prop := PlansIf kindless (fun _ => True) x

namespace PlansIf

variable {α β : Type} {P : α → Prop} {Q : β → Prop} {kindless : Prop}

theorem bind {x : Except RunError α} {k : α → Except RunError β} (hx : PlansIf kindless P x)
    (hk : ∀ a, P a → PlansIf kindless Q (k a)) : PlansIf kindless Q (x >>= k) := by
  cases x with
  | ok a => exact hk a hx
  | error e => exact hx

/-- a first part about which nothing is known but that it complains when it fails -/
theorem after {x : Except RunError α} {k : α → Except RunError β} (hx : ComplainsIf kindless x)
    (hk : ∀ a, PlansIf kindless Q (k a)) : PlansIf kindless Q (x >>= k) :=
  hx.bind fun a _ => hk a

theorem mapM {x : α → Except RunError β} (hx : ∀ a, ComplainsIf kindless (x a)) (l : List α) :
    ComplainsIf kindless (l.mapM x) := by
  induction l with
  | nil => exact trivial
  | cons a rest ih =>
    rw [List.mapM_cons]
    exact (hx a).after fun _ => ih.after fun _ => trivial

/-- what is certain of what is decided can be left out -/
theorem complains {x : Except RunError α} (h : PlansIf kindless P x) : ComplainsIf kindless x := by
  cases x with
  | ok a => trivial
  | error e => exact h

theorem plans {x : Except RunError α} (h : PlansIf kindless P x) : Plans P x := by
  cases x with
  | ok a => exact h
  | error e => exact RunError.IsComplaintIf.isComplaint h

end PlansIf

/-- operators that ask for a kernel -/
def Operator.computes : Operator → Bool
  | .reshape | .external | .parameter | .constant | .update | .unimplemented => false
  | _ => true

namespace Instruction

variable {τ υ : Type}

/-- a request to compute that goes by the name of its primitive -/
inductive IsKernel : Instruction τ → Prop
  | compute {name : Primitive} {k : Kernel τ} (h : name = k.primitive) : IsKernel (.compute name k)

/-- a request that goes by the name of its primitive, if it is one to compute -/
def IsNamed : Instruction τ → Prop
  | .compute name k => name = k.primitive
  | _ => True

theorem IsNamed.map {i : Instruction τ} (h : i.IsNamed) (f : τ → υ) : (i.map f).IsNamed := by
  cases i with
  | compute name k => exact h.trans (k.primitive_map f).symm
  | _ => trivial

end Instruction

/-- a convolution is requested as the primitive that it is -/
theorem ConvStrategy.request_eq_primitive (strategy : ConvStrategy) : strategy.request = strategy.primitive := by
  cases strategy <;> rfl

namespace Operation

variable (op : Operation) (key : String) {kindless : Prop}

/-! ## Attributes -/

theorem complains_single {α : Type} (expected : String) (view : Value → Option α) (default : α) :
    ComplainsIf kindless (op.single key expected view default) := by
  unfold single
  split
  · trivial
  · split <;> trivial

theorem complains_items (expected : String) : ComplainsIf kindless (op.items key expected) := by
  unfold items
  split
  · trivial
  · split <;> trivial

theorem complains_integers : ComplainsIf kindless (op.integers key) := by
  refine (op.complains_items key _).after fun found => ?_
  split
  · trivial
  · split <;> trivial

theorem complains_sizes : ComplainsIf kindless (op.sizes key) := by
  refine (op.complains_integers key).after fun found => ?_
  split
  · trivial
  · split <;> trivial

theorem complains_pairEntry (v : Value) : ComplainsIf kindless (op.pairEntry key v) := by
  unfold pairEntry
  split
  · split <;> trivial
  · trivial

theorem complains_pairs (whole : Value) (l : List Value) : ComplainsIf kindless (op.pairs key whole l) := by
  induction l with
  | nil => trivial
  | cons v rest ih =>
    unfold pairs
    split
    · exact (op.complains_pairEntry key _).after fun _ =>
        (op.complains_pairEntry key _).after fun _ => ih.after fun _ => trivial
    · trivial

theorem complains_padding : ComplainsIf kindless (op.padding key) := by
  refine (op.complains_items key _).after fun found => ?_
  split
  · trivial
  · exact (op.complains_pairs key _ _).after fun _ => trivial

theorem complains_axisIndex (axis : Int) (rank : Nat) : ComplainsIf kindless (op.axisIndex key axis rank) := by
  unfold axisIndex
  split <;> trivial

theorem complains_singleAxis (default : List Int) (rank : Nat) :
    ComplainsIf kindless (op.singleAxis key default rank) := by
  refine (op.complains_integers key).after fun found => ?_
  split
  · exact op.complains_axisIndex key _ rank
  · trivial
  · trivial

theorem complains_axisList (rank : Nat) : ComplainsIf kindless (op.axisList key rank) :=
  (op.complains_integers key).after fun _ => PlansIf.mapM (fun axis => op.complains_axisIndex key axis rank) _

theorem complains_checkRank (rank max : Nat) : ComplainsIf kindless (op.checkRank rank max) := by
  unfold checkRank
  split <;> trivial

/-- a literal of no kind is asked for only by an operation of the open kind -/
theorem complains_literalOfKind (h : op.dtype = .generic → kindless) (v : Value) :
    ComplainsIf kindless (op.literalOfKind key v) := by
  unfold literalOfKind
  split
  case h_7 hkind => exact h hkind
  all_goals trivial

/-! ## Windows -/

theorem complains_checkBorder (known : List String) : ComplainsIf kindless (op.checkBorder known) := by
  refine (op.complains_single _ _ _ _).after fun border => ?_
  split <;> trivial

theorem complains_checkSteps (axes : Nat) (entries : List Nat) :
    ComplainsIf kindless (op.checkSteps key axes entries) := by
  unfold checkSteps
  split
  · trivial
  · split <;> trivial

theorem complains_paddingOrSame (source target window stride dilation : List Nat) :
    ComplainsIf kindless (op.paddingOrSame source target window stride dilation) := by
  refine (op.complains_padding _).after fun found => ?_
  split
  · split <;> trivial
  · split <;> trivial

theorem complains_geometry (source target window : List Nat) :
    ComplainsIf kindless (op.geometry source target window) :=
  (op.complains_sizes _).after fun _ => (op.complains_sizes _).after fun _ =>
  (op.complains_checkSteps _ _ _).after fun _ =>
    (op.complains_checkSteps _ _ _).after fun _ => (op.complains_paddingOrSame _ _ _ _ _).after fun _ => trivial

theorem complains_strategy (channels : Nat) : ComplainsIf kindless (op.strategy channels) := by
  refine (op.complains_single _ _ _ _).after fun groups => ?_
  split <;> trivial

theorem complains_checkConvRanks (input filter output : Nat) :
    ComplainsIf kindless (op.checkConvRanks input filter output) := by
  refine (op.complains_checkRank _ _).after fun _ => (op.complains_checkRank _ _).after fun _ =>
    (op.complains_checkRank _ _).after fun _ => ?_
  split <;> trivial

theorem complains_poolOp (family : PoolFamily) : ComplainsIf kindless (op.poolOp family) := by
  cases family with
  | box => exact (op.complains_single _ _ _ _).after fun _ => trivial
  | avg => trivial
  | max => trivial

theorem complains_windowSize (source target : Nat) : ComplainsIf kindless (op.windowSize source target) := by
  refine (op.complains_sizes _).after fun found => ?_
  split
  · trivial
  · split <;> trivial

/-! ## Requests -/

theorem complains_listAxis (rank : Nat) : ComplainsIf kindless (op.listAxis rank) :=
  (op.complains_single _ _ _ _).after fun _ => op.complains_axisIndex _ _ rank

theorem complains_paddingPerAxis (rank : Nat) : ComplainsIf kindless (op.paddingPerAxis rank) := by
  refine (op.complains_padding _).after fun found => ?_
  dsimp only
  split <;> trivial

theorem complains_reduceOp (reduce : ReduceOp) : ComplainsIf kindless (op.reduceOp reduce) := by
  unfold reduceOp
  split
  · exact (op.complains_single _ _ _ _).after fun _ => trivial
  · trivial

theorem complains_elements {α : Type} (kind : ElementKind) (view : Value → Option α) (l : List Value) :
    ComplainsIf kindless (op.elements kind view l) := by
  induction l with
  | nil => trivial
  | cons v rest ih =>
    unfold elements
    split
    · exact ih.after fun _ => trivial
    · trivial

/-- elements that were read as a kind are of that kind, and none are of the open one -/
theorem plansIf_payloadOfKind {kind : ElementKind} (h : kind = .generic → kindless) (v : Value) :
    PlansIf kindless (fun p => p.kind = kind) (op.payloadOfKind kind v) := by
  cases kind with
  | bool => exact (op.complains_elements _ _ _).after fun _ => rfl
  | integer => exact (op.complains_elements _ _ _).after fun _ => rfl
  | float => exact (op.complains_elements _ _ _).after fun _ => rfl
  | generic => exact h rfl

variable {τ : Type} [Handle τ]

theorem plans_transpose (x y : τ) : PlansIf kindless Instruction.IsKernel (op.planTranspose x y) := by
  refine (op.complains_checkRank _ _).after fun _ => (op.complains_sizes _).after fun axes => ?_
  dsimp only
  split
  · exact .compute rfl
  · trivial

theorem plans_pad (h : op.dtype = .generic → kindless) (x y : τ) :
    PlansIf kindless Instruction.IsKernel (op.planPad x y) := by
  refine (op.complains_checkRank _ _).after fun _ => (op.complains_paddingPerAxis _).after fun padding =>
    (op.complains_single _ _ _ _).after fun border => ?_
  split
  · exact (op.complains_literalOfKind _ h _).after fun _ => .compute rfl
  · exact .compute rfl
  · trivial

theorem plans_slice (x y : τ) : PlansIf kindless Instruction.IsKernel (op.planSlice x y) := by
  refine (op.complains_checkRank _ _).after fun _ => (op.complains_integers _).after fun axes =>
    (op.complains_integers _).after fun begins => (op.complains_integers _).after fun strides => ?_
  dsimp only
  split
  · trivial
  · split
    · trivial
    · exact .compute rfl

theorem plans_conv (transposed : Bool) (x k b y : τ) :
    PlansIf kindless Instruction.IsKernel (op.planConv transposed x k b y) := by
  refine (op.complains_checkConvRanks _ _ _).after fun _ => ?_
  cases transposed <;>
    exact (op.complains_geometry _ _ _).after fun _ => (op.complains_strategy _).after fun strategy =>
      .compute strategy.request_eq_primitive

theorem plans_pool (family : PoolFamily) (transposed : Bool) (x y : τ) :
    PlansIf kindless Instruction.IsKernel (op.planPool family transposed x y) := by
  refine (op.complains_checkRank _ _).after fun _ => (op.complains_checkRank _ _).after fun _ => ?_
  cases transposed <;>
    exact (op.complains_windowSize _ _).after fun _ => (op.complains_geometry _ _ _).after fun _ =>
      (op.complains_poolOp family).after fun _ => .compute rfl

/-- a constant that fits its tensor is filled into it -/
theorem plansIf_constant {y : τ} (h : Handle.kind y = .generic → kindless) :
    PlansIf kindless (fun i => ∃ p, i = .fill y p) (op.planConstant y) := by
  unfold planConstant
  split
  · trivial
  · refine (op.plansIf_payloadOfKind h _).bind fun payload _ => ?_
    dsimp only
    split
    · exact ⟨_, rfl⟩
    · split
      · exact ⟨_, rfl⟩
      · trivial

theorem plans_constant (y : τ) : Plans (fun i => ∃ p, i = .fill y p) (op.planConstant y) :=
  (op.plansIf_constant (fun _ => trivial) : PlansIf True _ _).plans

end Operation

namespace Operator

variable {τ : Type} [Handle τ]

theorem complainsIf_precheck (o : Operator) (op : Operation) : ComplainsIf False (o.precheck op) := by
  cases o with
  | conv transposed => exact op.complains_checkBorder _
  | pool family transposed => exact op.complains_checkBorder _
  | _ => trivial

theorem complains_precheck (o : Operator) (op : Operation) : Complains (o.precheck op) :=
  (o.complainsIf_precheck op).plans

theorem plansIf_plan {o : Operator} (ho : o.computes = true) {op : Operation} {kindless : Prop}
    (h : op.dtype = .generic → kindless) (xs : Operands τ o.signature) :
    PlansIf kindless Instruction.IsKernel (o.plan op xs) := by
  cases o with
  | unary kind f => exact .compute rfl
  | binary kind f => exact .compute rfl
  | reduce kind f =>
    exact (op.complains_axisList _ _).after fun _ => (op.complains_reduceOp f).after fun _ => .compute rfl
  | argReduce f => exact (op.complains_singleAxis _ _ _).after fun _ => .compute rfl
  | select => exact .compute rfl
  | conv transposed => exact op.plans_conv transposed _ _ _ _
  | pool family transposed => exact op.plans_pool family transposed _ _
  | transpose => exact op.plans_transpose _ _
  | concat singular => exact (op.complains_listAxis _).after fun _ => .compute rfl
  | split singular => exact (op.complains_listAxis _).after fun _ => .compute rfl
  | pad => exact op.plans_pad h _ _
  | tile => exact (op.complains_checkRank _ _).after fun _ => .compute rfl
  | slice => exact op.plans_slice _ _
  | matmul =>
    exact (op.complains_single _ _ _ _).after fun _ => (op.complains_single _ _ _ _).after fun _ => .compute rfl
  | linear => exact .compute rfl
  | softmax => exact (op.complains_singleAxis _ _ _).after fun _ => .compute rfl
  | reshape => cases ho
  | external => cases ho
  | parameter => cases ho
  | constant => cases ho
  | update => cases ho
  | unimplemented => cases ho

/-- **An operator that computes makes one request to compute**, or complains about the operation. -/
theorem plans_plan {o : Operator} (ho : o.computes = true) (op : Operation) (xs : Operands τ o.signature) :
    Plans Instruction.IsKernel (o.plan op xs) :=
  (plansIf_plan ho (fun _ => trivial) xs : PlansIf True _ _).plans

/-- **Complaints about kinds.** Whatever an operator does, it complains if it fails, and about a kind only if the
operation or an operand is of the open one. -/
theorem complainsIf_plan (o : Operator) (op : Operation) (xs : Operands τ o.signature) :
    ComplainsIf (op.dtype = .generic ∨ ∃ x ∈ Operands.toList o.signature xs, Handle.kind x = .generic)
      (o.plan op xs) := by
  by_cases ho : o.computes = true
  · exact (plansIf_plan ho Or.inl xs).complains
  · cases o with
    | reshape => trivial
    | external => trivial
    | parameter => trivial
    | constant => exact (op.plansIf_constant fun hkind => Or.inr ⟨xs.1, List.mem_cons_self, hkind⟩).complains
    | update => trivial
    | unimplemented => trivial
    | _ => exact absurd rfl ho

theorem complains_plan (o : Operator) (op : Operation) (xs : Operands τ o.signature) : Complains (o.plan op xs) :=
  (o.complainsIf_plan op xs).plans

end Operator

end TensorGraph
