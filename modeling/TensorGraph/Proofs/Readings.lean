/-
What operators read of an operation.

Model: an operator looks at an operation through its name, its kind, the values of its slots and the readers of its
attributes. Most attributes have the same default wherever they are read (`Operation.default?`), so all that matters is
what is written or else the default (`Operation.meant?`). Two operations `SayTheSame` if that is the same under every
key.

Main results:
- `decision_eq_of_plan`: an operation with the same values in the slots is decided alike if it is checked and planned
  alike on what is found there;
- `SayTheSame.plan`: operations that say the same are planned alike, by every operator.
-/
import TensorGraph.Proofs.Scratch
import TensorGraph.Proofs.Windows

namespace TensorGraph

/-! ## Model -/

/-- the value that a missing attribute has wherever it is read; an empty list stands for no list -/
def Operation.default? : String → Option Value
  | "axes" | "begin" | "stride" | "dilation" | "padding" | "size" => some (.array [])
  | "border" => some (.string "constant")
  | "groups" => some (.integer 1)
  | "axis" => some (.integer 0)
  | "normalize" | "transposeA" | "transposeB" => some (.logical false)
  | _ => none

/-- what an attribute is read as: what is written, or its default -/
def Operation.meant? (op : Operation) (key : String) : Option Value := (op.attribute? key).or (Operation.default? key)

/-- operations whose attributes are read as the same -/
structure Operation.SayTheSame (op op' : Operation) : Prop where
  name : op'.name = op.name
  dtype : op'.dtype = op.dtype
  meant : ∀ key, op'.meant? key = op.meant? key

/-- a slot for which the same is looked up in two operations -/
def Slot.SameIn (op op' : Operation) : Slot → Prop
  | .input key => op'.input? key = op.input? key
  | .output key => op'.output? key = op.output? key
  | .optional key fallback => (op'.input? key).getD fallback = (op.input? key).getD fallback
  | .inputList key => op'.input? key = op.input? key
  | .outputList key => op'.output? key = op.output? key
  | .everything => op'.operands = op.operands

/-- sequences are the same if they go on alike from what the first part comes to -/
theorem except_bind_congr {ε α β : Type} {x : Except ε α} {k k' : α → Except ε β}
    (h : ∀ a, x = .ok a → k a = k' a) : x >>= k = x >>= k' := by
  cases x with
  | error e => rfl
  | ok a => exact h a rfl

/-! ## Writing -/

namespace Operation

theorem name_withAttribute (op : Operation) (key : String) (v : Value) : (op.withAttribute key v).name = op.name := rfl

theorem attribute?_withAttribute (op : Operation) (key k : String) (v : Value) :
    (op.withAttribute key v).attribute? k = if k = key then some v else op.attribute? k :=
  NameMap.find?_insert ..

theorem attribute?_withAttribute_self (op : Operation) (key : String) (v : Value) :
    (op.withAttribute key v).attribute? key = some v := by
  rw [attribute?_withAttribute, if_pos rfl]

theorem attribute?_withAttribute_of_ne (op : Operation) {key k : String} (v : Value) (h : k ≠ key) :
    (op.withAttribute key v).attribute? k = op.attribute? k := by
  rw [attribute?_withAttribute, if_neg h]

theorem meant?_withAttribute_of_ne (op : Operation) {key k : String} (v : Value) (h : k ≠ key) :
    (op.withAttribute key v).meant? k = op.meant? k := by
  rw [meant?, attribute?_withAttribute_of_ne op v h, meant?]

theorem input?_withInput (op : Operation) (key k : String) (v : Value) :
    (op.withInput key v).input? k = if k = key then some v else op.input? k :=
  NameMap.find?_insert ..

/-- writing a default out says nothing new -/
theorem sayTheSame_withAttribute {op : Operation} {key : String} {v : Value} (hv : default? key = some v)
    (hmissing : op.attribute? key = none) : op.SayTheSame (op.withAttribute key v) where
  name := rfl
  dtype := rfl
  meant k := by
    rw [meant?, meant?, attribute?_withAttribute]
    split
    · rename_i h
      rw [h, hmissing, hv, Option.or_some, Option.none_or]
      rfl
    · rfl

/-- operands are not attributes -/
theorem sayTheSame_withInput (op : Operation) (key : String) (v : Value) : op.SayTheSame (op.withInput key v) :=
  ⟨rfl, rfl, fun _ => rfl⟩

end Operation

/-! ## What looks at the name only -/

namespace Operation

variable {op op' : Operation}

section

variable (h : op'.name = op.name)

include h

theorem malformed_congr : op'.malformed = op.malformed := by
  funext key reason
  rw [malformed, h, malformed]

theorem unsupported_congr : op'.unsupported = op.unsupported := by
  funext reason
  rw [unsupported, h, unsupported]

theorem mismatch_congr : op'.mismatch = op.mismatch := by
  funext key expected found
  rw [mismatch, malformed_congr h, mismatch]

theorem axisIndex_congr : op'.axisIndex = op.axisIndex := by
  funext key axis rank
  rw [axisIndex, malformed_congr h, axisIndex]

theorem checkRank_congr : op'.checkRank = op.checkRank := by
  funext rank max
  rw [checkRank, unsupported_congr h, checkRank]

theorem checkSteps_congr : op'.checkSteps = op.checkSteps := by
  funext key axes entries
  rw [checkSteps, malformed_congr h, checkSteps]

theorem checkConvRanks_congr : op'.checkConvRanks = op.checkConvRanks := by
  funext input filter output
  rw [checkConvRanks, checkRank_congr h, malformed_congr h, checkConvRanks]

theorem pairEntry_congr : op'.pairEntry = op.pairEntry := by
  funext key v
  rw [pairEntry, mismatch_congr h, pairEntry]

/-- pairs are read item by item, the whole only counts for its sort -/
theorem pairs_congr (key : String) {whole whole' : Value} (hsort : whole'.sortName = whole.sortName)
    (items : List Value) : op'.pairs key whole' items = op.pairs key whole items := by
  induction items with
  | nil => rfl
  | cons v rest ih =>
    rw [pairs, pairs, pairEntry_congr h, ih]
    simp only [mismatch, malformed_congr h, hsort]

theorem elements_congr {α : Type} (kind : ElementKind) (view : Value → Option α) (items : List Value) :
    op'.elements kind view items = op.elements kind view items := by
  induction items with
  | nil => rfl
  | cons v rest ih => rw [elements, elements, malformed_congr h, ih]

theorem payloadOfKind_congr : op'.payloadOfKind = op.payloadOfKind := by
  funext kind v
  cases kind <;> simp only [payloadOfKind, elements_congr h, h]

theorem literalOfKind_congr (hdtype : op'.dtype = op.dtype) : op'.literalOfKind = op.literalOfKind := by
  funext key v
  simp only [literalOfKind, h, hdtype, mismatch_congr h]

end

end Operation

/-! ## Readers -/

namespace Operation

variable {op op' : Operation} {key : String} {v : Value}

/-- a reader with the default of its attribute reads what the attribute is read as -/
theorem single_eq_of_meant {α : Type} {expected : String} {view : Value → Option α} {d : Value} {x : α}
    (hd : default? key = some d) (hx : view d = some x) (hv : op.meant? key = some v) :
    op.single key expected view x = match view v with
      | some x => .ok x
      | none => .error (op.mismatch key expected v) := by
  unfold single
  cases hfound : op.attribute? key with
  | some w =>
    rw [meant?, hfound, Option.some_or] at hv
    cases hv
    rfl
  | none =>
    rw [meant?, hfound, Option.none_or, hd] at hv
    cases hv
    rw [hx]

theorem items_eq_of_meant {expected : String} (hd : default? key = some (.array []))
    (hv : op.meant? key = some v) : op.items key expected = match v.array? with
      | none => .error (op.mismatch key expected v)
      | some [] => .ok none
      | some l => .ok (some (v, l)) := by
  unfold items
  cases hfound : op.attribute? key with
  | some w =>
    rw [meant?, hfound, Option.some_or] at hv
    cases hv
    rfl
  | none =>
    rw [meant?, hfound, Option.none_or, hd] at hv
    cases hv
    rfl

/-- an attribute with a default is always read as something -/
theorem exists_meant (op : Operation) {d : Value} (hd : default? key = some d) : ∃ v, op.meant? key = some v := by
  rw [meant?, hd]
  cases op.attribute? key with
  | none => exact ⟨d, rfl⟩
  | some v => exact ⟨v, rfl⟩

section

variable (hname : op'.name = op.name) (h : op'.meant? key = op.meant? key)

include hname h

theorem single_of_meant {α : Type} {expected : String} {view : Value → Option α} {d : Value} {x : α}
    (hd : default? key = some d) (hx : view d = some x) :
    op'.single key expected view x = op.single key expected view x := by
  obtain ⟨v, hv⟩ := exists_meant op hd
  rw [single_eq_of_meant hd hx hv, single_eq_of_meant hd hx (h.trans hv), mismatch_congr hname]

theorem integer_of_meant {n : Int64} (hd : default? key = some (.integer n)) : op'.integer key n = op.integer key n :=
  single_of_meant hname h hd rfl

theorem logical_of_meant {b : Bool} (hd : default? key = some (.logical b)) : op'.logical key b = op.logical key b :=
  single_of_meant hname h hd rfl

theorem string_of_meant {text : String} (hd : default? key = some (.string text)) :
    op'.string key text = op.string key text :=
  single_of_meant hname h hd rfl

theorem items_of_meant (hd : default? key = some (.array [])) (expected : String) :
    op'.items key expected = op.items key expected := by
  obtain ⟨v, hv⟩ := exists_meant op hd
  rw [items_eq_of_meant hd hv, items_eq_of_meant hd (h.trans hv), mismatch_congr hname]

theorem integers_of_meant (hd : default? key = some (.array [])) : op'.integers key = op.integers key := by
  rw [integers, items_of_meant hname h hd, mismatch_congr hname, integers]

theorem sizes_of_meant (hd : default? key = some (.array [])) : op'.sizes key = op.sizes key := by
  rw [sizes, integers_of_meant hname h hd, malformed_congr hname, sizes]

theorem padding_of_meant (hd : default? key = some (.array [])) : op'.padding key = op.padding key := by
  simp only [padding, items_of_meant hname h hd, pairs_congr hname key rfl]

end

/-- an attribute without a default is the same if it is read as the same -/
theorem attribute?_of_meant (h : op'.meant? key = op.meant? key) (hd : default? key = none) :
    op'.attribute? key = op.attribute? key := by
  rwa [meant?, meant?, hd, Option.or_none, Option.or_none] at h

/-- what is not the default is read if it is written -/
theorem attribute?_iff_of_meant (h : op'.meant? key = op.meant? key) {d : Value} (hd : default? key = some d)
    (hv : v ≠ d) : op'.attribute? key = some v ↔ op.attribute? key = some v := by
  rw [meant?, meant?, hd] at h
  have hwritten : ∀ found : Option Value, found.or (some d) = some v ↔ found = some v := fun found => by
    cases found with
    | none => simpa using hv.symm
    | some w => simp
  rw [← hwritten, h, hwritten]

end Operation

/-! ## Plans that look at several attributes -/

namespace Operation

variable {op op' : Operation}

/-- the steps of a window over some number of axes -/
def stepsOrOnes (op : Operation) (key : String) (axes : Nat) : Except RunError (List Nat) :=
  (op.sizes key).map (·.getD (List.replicate axes 1))

theorem geometry_eq (op : Operation) (source target window : List Nat) :
    op.geometry source target window = (do
      let stride ← op.stepsOrOnes "stride" source.length
      let dilation ← op.stepsOrOnes "dilation" source.length
      op.checkSteps "stride" source.length stride
      op.checkSteps "dilation" source.length dilation
      let padding ← op.paddingOrSame source target window stride dilation
      .ok ⟨padding, stride, dilation⟩) := by
  unfold geometry stepsOrOnes
  cases op.sizes "stride" with
  | error e => rfl
  | ok stride => cases op.sizes "dilation" <;> rfl

/-- all that is checked before operands are looked up is the border -/
theorem precheck_congr (hname : op'.name = op.name) (h : op'.string "border" "constant" = op.string "border" "constant")
    (o : Operator) : o.precheck op' = o.precheck op := by
  have hborder : ∀ known, op'.checkBorder known = op.checkBorder known := fun known => by
    rw [checkBorder, h, unsupported_congr hname, checkBorder]
  cases o with
  | conv transposed => exact hborder _
  | pool family transposed => exact hborder _
  | _ => rfl

theorem poolOp_congr (h : op'.logical "normalize" false = op.logical "normalize" false) (family : PoolFamily) :
    op'.poolOp family = op.poolOp family := by
  cases family with
  | box => rw [poolOp, h, poolOp]
  | _ => rfl

section

variable (hname : op'.name = op.name)

include hname

theorem strategy_congr (h : op'.integer "groups" 1 = op.integer "groups" 1) (channels : Nat) :
    op'.strategy channels = op.strategy channels := by
  rw [strategy, h, malformed_congr hname, strategy]

theorem geometry_congr {source target window : List Nat}
    (hstride : op'.stepsOrOnes "stride" source.length = op.stepsOrOnes "stride" source.length)
    (hdilation : op'.stepsOrOnes "dilation" source.length = op.stepsOrOnes "dilation" source.length)
    (hpadding : op'.padding "padding" = op.padding "padding") :
    op'.geometry source target window = op.geometry source target window := by
  simp only [geometry_eq, hstride, hdilation, paddingOrSame, hpadding, checkSteps_congr hname, malformed_congr hname]

theorem paddingPerAxis_congr (h : op'.padding "padding" = op.padding "padding") (rank : Nat) :
    op'.paddingPerAxis rank = op.paddingPerAxis rank := by
  rw [paddingPerAxis, h, malformed_congr hname, paddingPerAxis]

variable {τ : Type} [Handle τ]

/-- a convolution is planned from its groups and from its window, which has the rank of the input but for two axes -/
theorem planConv_congr {transposed : Bool} {input filter bias output : τ}
    (hgroups : op'.integer "groups" 1 = op.integer "groups" 1)
    (hgeometry : ∀ source target window : List Nat, source.length = Handle.rank input - 2 →
      op'.geometry source target window = op.geometry source target window) :
    op'.planConv transposed input filter bias output = op.planConv transposed input filter bias output := by
  simp only [planConv, strategy_congr hname hgroups, checkConvRanks_congr hname]
  refine except_bind_congr fun _ hranks => ?_
  obtain ⟨-, -, -, houtput⟩ := checkConvRanks_eq_ok_iff.1 hranks
  cases transposed with
  | false => exact congrArg (· >>= _) (hgeometry _ _ _ List.length_drop)
  | true => exact congrArg (· >>= _) (hgeometry _ _ _ (List.length_drop.trans (congrArg (· - 2) houtput)))

/-- pooling is planned from its size, its border, whether it is normalized, and its window of the rank of the input -/
theorem planPool_congr {family : PoolFamily} {transposed : Bool} {input output : τ}
    (hsize : op'.sizes "size" = op.sizes "size")
    (hnormalize : op'.logical "normalize" false = op.logical "normalize" false)
    (hborder : op'.attribute? "border" = some (.string "ignore") ↔ op.attribute? "border" = some (.string "ignore"))
    (hgeometry : ∀ source target window : List Nat, source.length = Handle.rank input →
      op'.geometry source target window = op.geometry source target window) :
    op'.planPool family transposed input output = op.planPool family transposed input output := by
  have hwindow : op'.windowSize = op.windowSize := by
    funext source target
    rw [windowSize, hsize, malformed_congr hname, windowSize]
  simp only [planPool, checkRank_congr hname, hwindow, poolOp_congr hnormalize, ne_eq, hborder]
  refine except_bind_congr fun _ _ => except_bind_congr fun _ _ => ?_
  cases transposed with
  | false => exact except_bind_congr fun _ _ => congrArg (· >>= _) (hgeometry _ _ _ rfl)
  | true =>
    refine except_bind_congr fun size hfound => congrArg (· >>= _) (hgeometry _ _ _ ?_)
    exact (windowSize_eq_ok_iff.1 hfound).2.1.symm

/-- padding with a constant or the nearest element is planned from the padding, the border and the constant -/
theorem planPad_congr {input output : τ} (hdtype : op'.dtype = op.dtype)
    (hpadding : op'.paddingPerAxis (Handle.rank input) = op.paddingPerAxis (Handle.rank input))
    (hborder : op'.string "border" "constant" = op.string "border" "constant")
    (hvalue : (op'.attribute? "value").getD (.scalar .zero) = (op.attribute? "value").getD (.scalar .zero)) :
    op'.planPad input output = op.planPad input output := by
  simp only [planPad, checkRank_congr hname, hpadding, hborder, hvalue, literalOfKind_congr hname hdtype,
    unsupported_congr hname]

end

/-! ## Operations that say the same -/

namespace SayTheSame

variable (h : op.SayTheSame op')

include h

theorem integer (key : String) {n : Int64} (hd : default? key = some (.integer n)) :
    op'.integer key n = op.integer key n :=
  integer_of_meant h.name (h.meant key) hd

theorem logical (key : String) {b : Bool} (hd : default? key = some (.logical b)) :
    op'.logical key b = op.logical key b :=
  logical_of_meant h.name (h.meant key) hd

theorem string (key : String) {text : String} (hd : default? key = some (.string text)) :
    op'.string key text = op.string key text :=
  string_of_meant h.name (h.meant key) hd

theorem integers (key : String) (hd : default? key = some (.array [])) : op'.integers key = op.integers key :=
  integers_of_meant h.name (h.meant key) hd

theorem sizes (key : String) (hd : default? key = some (.array [])) : op'.sizes key = op.sizes key :=
  sizes_of_meant h.name (h.meant key) hd

theorem padding (key : String) (hd : default? key = some (.array [])) : op'.padding key = op.padding key :=
  padding_of_meant h.name (h.meant key) hd

theorem ignoresBorder :
    op'.attribute? "border" = some (.string "ignore") ↔ op.attribute? "border" = some (.string "ignore") :=
  attribute?_iff_of_meant (h.meant "border") rfl (by decide)

theorem precheck (o : Operator) : o.precheck op' = o.precheck op := precheck_congr h.name (h.string "border" rfl) o

theorem singleAxis (default : List Int) (rank : Nat) :
    op'.singleAxis "axes" default rank = op.singleAxis "axes" default rank := by
  rw [Operation.singleAxis, h.integers "axes" rfl, axisIndex_congr h.name, malformed_congr h.name,
    unsupported_congr h.name, Operation.singleAxis]

theorem axisList (rank : Nat) : op'.axisList "axes" rank = op.axisList "axes" rank := by
  rw [Operation.axisList, h.integers "axes" rfl, axisIndex_congr h.name, Operation.axisList]

theorem listAxis (rank : Nat) : op'.listAxis rank = op.listAxis rank := by
  rw [Operation.listAxis, h.integer "axis" rfl, axisIndex_congr h.name, Operation.listAxis]

theorem reduceOp (reduce : ReduceOp) : op'.reduceOp reduce = op.reduceOp reduce := by
  cases reduce with
  | sum => rw [Operation.reduceOp, h.logical "normalize" rfl, Operation.reduceOp]
  | _ => rfl

theorem geometry (source target window : List Nat) :
    op'.geometry source target window = op.geometry source target window := by
  simp only [Operation.geometry, paddingOrSame, h.sizes "stride" rfl, h.sizes "dilation" rfl,
    h.padding "padding" rfl, checkSteps_congr h.name, malformed_congr h.name]

/-- **Attributes are read with their defaults.** Operations that say the same are planned alike by every operator, down
to what is complained about. -/
theorem plan {τ : Type} [Handle τ] (o : Operator) (xs : Operands τ o.signature) : o.plan op' xs = o.plan op xs := by
  cases o with
  | reduce kind f => simp only [Operator.plan, planReduce, h.axisList, h.reduceOp]
  | argReduce f => simp only [Operator.plan, planArgReduce, h.singleAxis]
  | conv transposed => exact planConv_congr h.name (h.integer "groups" rfl) fun _ _ _ _ => h.geometry ..
  | pool family transposed =>
    exact planPool_congr h.name (h.sizes "size" rfl) (h.logical "normalize" rfl) h.ignoresBorder
      fun _ _ _ _ => h.geometry ..
  | transpose =>
    simp only [Operator.plan, planTranspose, checkRank_congr h.name, h.sizes "axes" rfl, malformed_congr h.name]
  | concat singular => simp only [Operator.plan, planConcat, h.listAxis]
  | split singular => simp only [Operator.plan, planSplit, h.listAxis]
  | pad =>
    refine planPad_congr h.name h.dtype (paddingPerAxis_congr h.name (h.padding "padding" rfl) _)
      (h.string "border" rfl) ?_
    rw [attribute?_of_meant (h.meant "value") rfl]
  | tile => simp only [Operator.plan, planTile, checkRank_congr h.name]
  | slice =>
    simp only [Operator.plan, planSlice, checkRank_congr h.name, h.integers "axes" rfl, h.integers "begin" rfl,
      h.integers "stride" rfl, malformed_congr h.name]
  | matmul => simp only [Operator.plan, planMatmul, h.logical "transposeA" rfl, h.logical "transposeB" rfl]
  | softmax => simp only [Operator.plan, planSoftmax, h.singleAxis]
  | constant =>
    simp only [Operator.plan, planConstant, attribute?_of_meant (h.meant "value") rfl, malformed_congr h.name,
      payloadOfKind_congr h.name]
  | unimplemented => simp only [Operator.plan, unsupported_congr h.name]
  | _ => rfl

end SayTheSame

end Operation

/-! ## Operands -/

namespace Supply

variable {m : Type → Type} {τ : Type} [Monad m] [MonadExcept RunError m] {supply : Supply m τ} {op op' : Operation}

section

variable (h : op'.name = op.name)

include h

omit [Monad m] in
theorem resolve_congr : supply.resolve op' = supply.resolve op := by
  funext key v
  unfold resolve
  rw [Operation.malformed_congr h]

theorem resolveItems_congr (key : String) (items : List Value) :
    supply.resolveItems op' key items = supply.resolveItems op key items := by
  induction items with
  | nil => rfl
  | cons v rest ih => rw [resolveItems, resolveItems, resolve_congr h, ih]

theorem resolveList_congr (key : String) (v : Value) :
    supply.resolveList op' key v = supply.resolveList op key v := by
  simp only [resolveList, resolveItems_congr h, Operation.malformed_congr h]

theorem required_congr : (required op' : String → String → Option Value → m Value) = required op := by
  funext key what v
  cases v with
  | none => rw [required, required, Operation.malformed_congr h]
  | some v => rfl

theorem resolveOperands_congr (operands : List (String × Value)) :
    supply.resolveOperands op' operands = supply.resolveOperands op operands := by
  induction operands with
  | nil => rfl
  | cons e rest ih => rw [resolveOperands, resolveOperands, resolveItems_congr h, ih]

theorem fillSlot_congr {slot : Slot} (hslot : slot.SameIn op op') :
    supply.fillSlot op' slot = supply.fillSlot op slot := by
  cases slot <;> simp only [Slot.SameIn] at hslot <;>
    simp only [fillSlot, hslot, required_congr h, resolve_congr h, resolveList_congr h, resolveOperands_congr h]

/-- operands are the same if the same is looked up for every slot -/
theorem fillSlots_congr {slots : List Slot} (hslots : ∀ slot ∈ slots, slot.SameIn op op') :
    supply.fillSlots op' slots = supply.fillSlots op slots := by
  induction slots with
  | nil => rfl
  | cons slot rest ih =>
    obtain ⟨hslot, hrest⟩ := List.forall_mem_cons.1 hslots
    rw [fillSlots, fillSlots, fillSlot_congr h hslot, ih hrest]

end

end Supply

/-- attributes are not looked up -/
theorem Slot.sameIn_withAttribute (op : Operation) (key : String) (v : Value) (slot : Slot) :
    slot.SameIn op (op.withAttribute key v) := by
  cases slot <;> rfl

/-! ## Decisions -/

section

variable {τ : Type} [Handle τ] {o : Operator} {env : String → Option τ} {op op' : Operation}

/-- a decision only looks at the check, at what is found in the slots, and at the plan on it -/
theorem decision_eq_of_plan (hname : op'.name = op.name) (hslots : ∀ slot ∈ o.signature, slot.SameIn op op')
    (hcheck : o.precheck op' = o.precheck op)
    (hplan : ∀ xs all, (Lookup.supply env).fillSlots op o.signature [] = .ok xs all → o.plan op' xs = o.plan op xs) :
    o.decision env op' = o.decision env op := by
  unfold Operator.decision
  rw [hcheck, Supply.fillSlots_congr hname hslots]
  cases o.precheck op with
  | error e => rfl
  | ok u =>
    dsimp only
    cases hxs : (Lookup.supply env).fillSlots op o.signature [] with
    | error e seen => rfl
    | ok xs seen => exact congrArg _ (hplan xs seen hxs)

/-- an attribute only counts in the plan, unless it is the border -/
theorem decision_withAttribute {key : String} {v : Value} (hkey : "border" ≠ key)
    (hplan : ∀ xs all, (Lookup.supply env).fillSlots op o.signature [] = .ok xs all →
      o.plan (op.withAttribute key v) xs = o.plan op xs) :
    o.decision env (op.withAttribute key v) = o.decision env op := by
  have hname := op.name_withAttribute key v
  have hborder := Operation.string_of_meant hname (op.meant?_withAttribute_of_ne v hkey) rfl
  exact decision_eq_of_plan hname (fun slot _ => slot.sameIn_withAttribute op key v)
    (Operation.precheck_congr hname hborder o) hplan

end

/-- operations that are decided alike do the same -/
theorem Session.perform_eq_of_decision {o o' : Operator} {op op' : Operation} {s : Session Recorder BufferRef}
    (hname : op'.name = op.name) (hdtype : op'.dtype = op.dtype)
    (h : o'.decision s.bindings.find? op' = o.decision s.bindings.find? op) :
    perform o' op' s = perform o op s := by
  have hdispatch : dispatch o' op' s = dispatch o op s := by
    rw [dispatch_eq, dispatch_eq, h]
  unfold perform
  rw [hname, hdtype]
  split
  · rw [both_apply, both_apply, hdispatch]
  · rfl

end TensorGraph
