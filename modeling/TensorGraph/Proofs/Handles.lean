/-
Operators decide by kinds and shapes of their handles alone.

Model: changing the handles of the operands, but not what can be read off them, changes the handles of the instruction
in the same way and nothing else (`plan_map`).

Main results:
- `plan_map`: deciding and changing handles commute;
- `mem_operands_of_plan`: an instruction names no handle besides those of its operands.
-/
import TensorGraph.Operator.Plan

namespace TensorGraph

/-! ## Handles of operands -/

/-- the handles in a slot -/
def Slot.Filling.toList {τ : Type} : (slot : Slot) → slot.Filling τ → List τ
  | .input _, t => [t]
  | .output _, t => [t]
  | .optional _ _, t => [t]
  | .inputList _, ts => ts
  | .outputList _, ts => ts
  | .everything, ts => ts

/-- the same filling with other handles -/
def Slot.Filling.map {τ υ : Type} (f : τ → υ) : (slot : Slot) → slot.Filling τ → slot.Filling υ
  | .input _, t => f t
  | .output _, t => f t
  | .optional _ _, t => f t
  | .inputList _, ts => List.map f ts
  | .outputList _, ts => List.map f ts
  | .everything, ts => List.map f ts

namespace Operands

variable {τ υ ω : Type}

/-- all handles, from the first slot to the last -/
def toList : (slots : List Slot) → Operands τ slots → List τ
  | [], _ => []
  | slot :: rest, (x, xs) => Slot.Filling.toList slot x ++ toList rest xs

/-- the same operands with other handles -/
def map (f : τ → υ) : (slots : List Slot) → Operands τ slots → Operands υ slots
  | [], _ => ()
  | slot :: rest, (x, xs) => (Slot.Filling.map f slot x, map f rest xs)

end Operands

/-- a list whose members all have a property is a list of members with proofs -/
theorem exists_map_val_eq {τ : Type} {P : τ → Prop} (l : List τ) (h : ∀ t ∈ l, P t) :
    ∃ m : List { t // P t }, m.map Subtype.val = l :=
  ⟨l.attach.map fun t => ⟨t.1, h t.1 t.2⟩, by simp [List.map_map, Function.comp_def]⟩

theorem Slot.Filling.exists_map_val_eq {τ : Type} {P : τ → Prop} (slot : Slot) (x : slot.Filling τ)
    (h : ∀ t ∈ toList slot x, P t) : ∃ y : slot.Filling { t // P t }, map Subtype.val slot y = x := by
  cases slot with
  | input key => exact ⟨⟨x, h x List.mem_cons_self⟩, rfl⟩
  | output key => exact ⟨⟨x, h x List.mem_cons_self⟩, rfl⟩
  | «optional» key fallback => exact ⟨⟨x, h x List.mem_cons_self⟩, rfl⟩
  | inputList key => exact TensorGraph.exists_map_val_eq x h
  | outputList key => exact TensorGraph.exists_map_val_eq x h
  | everything => exact TensorGraph.exists_map_val_eq x h

theorem Operands.exists_map_val_eq {τ : Type} {P : τ → Prop} (slots : List Slot) (xs : Operands τ slots)
    (h : ∀ t ∈ toList slots xs, P t) : ∃ ys : Operands { t // P t } slots, map Subtype.val slots ys = xs := by
  induction slots with
  | nil => exact ⟨(), rfl⟩
  | cons slot rest ih =>
    obtain ⟨x, xs⟩ := xs
    obtain ⟨y, hy⟩ := Slot.Filling.exists_map_val_eq slot x fun t ht => h t (List.mem_append_left _ ht)
    obtain ⟨ys, hys⟩ := ih xs fun t ht => h t (List.mem_append_right _ ht)
    exact ⟨(y, ys), by rw [map, hy, hys]⟩

/-! ## Deciding and changing handles commute -/

/-- a change of handles that keeps what can be read off them -/
structure SameView {τ υ : Type} [Handle τ] [Handle υ] (f : τ → υ) : Prop where
  kind : ∀ t, Handle.kind (f t) = Handle.kind t
  shape : ∀ t, Handle.shape (f t) = Handle.shape t

namespace SameView

variable {τ υ : Type} [Handle τ] [Handle υ] {f : τ → υ}

theorem rank (hf : SameView f) (t : τ) : Handle.rank (f t) = Handle.rank t := by
  rw [Handle.rank, Handle.rank, hf.shape]

theorem volume (hf : SameView f) (t : τ) : Handle.volume (f t) = Handle.volume t := by
  rw [Handle.volume, Handle.volume, hf.shape]

end SameView

theorem except_map_bind {ε α β γ : Type} (f : β → γ) (x : Except ε α) (k : α → Except ε β) :
    (x >>= k).map f = x >>= fun a => (k a).map f := by
  cases x <;> rfl

namespace Operation

variable {τ υ : Type} [Handle τ] [Handle υ] {f : τ → υ}

theorem planTranspose_map (hf : SameView f) (op : Operation) (x y : τ) :
    op.planTranspose (f x) (f y) = (op.planTranspose x y).map (Instruction.map f) := by
  simp only [planTranspose, except_map_bind, hf.rank]
  refine bind_congr fun _ => bind_congr fun axes => ?_
  cases completePermutation? (axes.getD []) (Handle.rank x) <;> rfl

theorem planConcat_map (hf : SameView f) (op : Operation) (singular : Bool) (xs : List τ) (y : τ) :
    op.planConcat singular (xs.map f) (f y) = (op.planConcat singular xs y).map (Instruction.map f) := by
  simp only [planConcat, except_map_bind, hf.rank]
  rfl

theorem planSplit_map (hf : SameView f) (op : Operation) (singular : Bool) (x : τ) (ys : List τ) :
    op.planSplit singular (f x) (ys.map f) = (op.planSplit singular x ys).map (Instruction.map f) := by
  simp only [planSplit, except_map_bind, hf.rank]
  rfl

theorem planPad_map (hf : SameView f) (op : Operation) (x y : τ) :
    op.planPad (f x) (f y) = (op.planPad x y).map (Instruction.map f) := by
  simp only [planPad, except_map_bind, hf.rank]
  refine bind_congr fun _ => bind_congr fun padding => bind_congr fun border => ?_
  split
  · rw [except_map_bind]
    rfl
  · rfl
  · rfl

theorem planTile_map (hf : SameView f) (op : Operation) (x y : τ) :
    op.planTile (f x) (f y) = (op.planTile x y).map (Instruction.map f) := by
  simp only [planTile, except_map_bind, hf.rank]
  rfl

theorem planSlice_map (hf : SameView f) (op : Operation) (x y : τ) :
    op.planSlice (f x) (f y) = (op.planSlice x y).map (Instruction.map f) := by
  simp only [planSlice, except_map_bind, hf.shape]
  refine bind_congr fun _ => bind_congr fun axes => bind_congr fun begins => bind_congr fun strides => ?_
  cases sliceStarts? (Handle.shape x) (axes.getD []) (begins.getD []) with
  | none => rfl
  | some starts => cases sliceSteps? (Handle.shape x).length (axes.getD []) (strides.getD []) <;> rfl

theorem planConv_map (hf : SameView f) (op : Operation) (transposed : Bool) (x k b y : τ) :
    op.planConv transposed (f x) (f k) (f b) (f y) =
      (op.planConv transposed x k b y).map (Instruction.map f) := by
  cases transposed <;> simp only [planConv, except_map_bind, hf.rank, hf.shape, Bool.false_eq_true, ↓reduceIte] <;> rfl

theorem planPool_map (hf : SameView f) (op : Operation) (family : PoolFamily) (transposed : Bool) (x y : τ) :
    op.planPool family transposed (f x) (f y) = (op.planPool family transposed x y).map (Instruction.map f) := by
  cases transposed <;> simp only [planPool, except_map_bind, hf.rank, hf.shape, Bool.false_eq_true, ↓reduceIte] <;> rfl

theorem planReduce_map (hf : SameView f) (op : Operation) (kind : ElementKind) (reduce : ReduceOp) (x y : τ) :
    op.planReduce kind reduce (f x) (f y) = (op.planReduce kind reduce x y).map (Instruction.map f) := by
  simp only [planReduce, except_map_bind, hf.rank]
  rfl

theorem planArgReduce_map (hf : SameView f) (op : Operation) (reduce : ArgReduceOp) (x y : τ) :
    op.planArgReduce reduce (f x) (f y) = (op.planArgReduce reduce x y).map (Instruction.map f) := by
  simp only [planArgReduce, except_map_bind, hf.rank]
  rfl

theorem planSoftmax_map (hf : SameView f) (op : Operation) (x y : τ) :
    op.planSoftmax (f x) (f y) = (op.planSoftmax x y).map (Instruction.map f) := by
  simp only [planSoftmax, except_map_bind, hf.rank]
  rfl

omit [Handle τ] [Handle υ] in
theorem planMatmul_map (f : τ → υ) (op : Operation) (a b c : τ) :
    op.planMatmul (f a) (f b) (f c) = (op.planMatmul a b c).map (Instruction.map f) := by
  simp only [planMatmul, except_map_bind]
  rfl

theorem planConstant_map (hf : SameView f) (op : Operation) (y : τ) :
    op.planConstant (f y) = (op.planConstant y).map (Instruction.map f) := by
  simp only [planConstant, hf.kind, hf.volume]
  cases op.attribute? "value" with
  | none => rfl
  | some v =>
    simp only [except_map_bind]
    refine bind_congr fun payload => ?_
    split
    · rfl
    · cases payload.broadcast (Handle.volume y) <;> rfl

end Operation

/-- **Decisions do not look at handles.** Changing the handles of the operands, but not their kinds and shapes, changes
the handles of the instruction in the same way and keeps everything else, the faults included. -/
theorem plan_map {τ υ : Type} [Handle τ] [Handle υ] {f : τ → υ} (hf : SameView f) (o : Operator) (op : Operation)
    (xs : Operands τ o.signature) :
    o.plan op (Operands.map f o.signature xs) = (o.plan op xs).map (Instruction.map f) := by
  cases o with
  | reduce kind reduce => exact op.planReduce_map hf kind reduce xs.1 xs.2.1
  | argReduce reduce => exact op.planArgReduce_map hf reduce xs.1 xs.2.1
  | conv transposed => exact op.planConv_map hf transposed xs.1 xs.2.1 xs.2.2.1 xs.2.2.2.1
  | pool family transposed => exact op.planPool_map hf family transposed xs.1 xs.2.1
  | transpose => exact op.planTranspose_map hf xs.1 xs.2.1
  | concat singular => exact op.planConcat_map hf singular xs.1 xs.2.1
  | split singular => exact op.planSplit_map hf singular xs.1 xs.2.1
  | pad => exact op.planPad_map hf xs.1 xs.2.1
  | tile => exact op.planTile_map hf xs.1 xs.2.1
  | slice => exact op.planSlice_map hf xs.1 xs.2.1
  | matmul => exact op.planMatmul_map f xs.1 xs.2.1 xs.2.2.1
  | softmax => exact op.planSoftmax_map hf xs.1 xs.2.1
  | constant => exact op.planConstant_map hf xs.1
  | _ => rfl

/-! ## Handles of an instruction -/

namespace Instruction

variable {τ υ : Type}

/-- the tensors that an instruction names -/
def handles : Instruction τ → List τ
  | .idle => []
  | .fill target _ => [target]
  | .copy source target => [source, target]
  | .compute _ kernel => kernel.handles

@[simp] theorem handles_map (f : τ → υ) (i : Instruction τ) : (i.map f).handles = i.handles.map f := by
  cases i <;> simp [map, handles]

theorem map_map {ω : Type} (g : υ → ω) (f : τ → υ) (i : Instruction τ) : (i.map f).map g = i.map (g ∘ f) := by
  cases i <;> simp [map, Kernel.map_map]

end Instruction

/-- an instruction names no handle besides those of its operands -/
theorem mem_operands_of_plan {τ : Type} [Handle τ] {o : Operator} {op : Operation} {xs : Operands τ o.signature}
    {i : Instruction τ} (h : o.plan op xs = .ok i) : ∀ t ∈ i.handles, t ∈ Operands.toList o.signature xs := by
  -- the same decision on handles that carry the proof that they are operands
  let _ : Handle { t // t ∈ Operands.toList o.signature xs } :=
    ⟨fun t => Handle.kind t.1, fun t => Handle.shape t.1⟩
  obtain ⟨ys, hys⟩ := Operands.exists_map_val_eq o.signature xs fun _ ht => ht
  have hmap := plan_map (f := Subtype.val) ⟨fun _ => rfl, fun _ => rfl⟩ o op ys
  rw [hys, h] at hmap
  cases hj : o.plan op ys with
  | error e => rw [hj] at hmap; cases hmap
  | ok j =>
    rw [hj] at hmap
    cases hmap
    intro t ht
    rw [Instruction.handles_map] at ht
    obtain ⟨u, -, rfl⟩ := List.mem_map.1 ht
    exact u.2

end TensorGraph
