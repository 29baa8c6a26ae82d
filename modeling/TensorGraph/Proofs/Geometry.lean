/-
What backends may rely on in a request to compute.

Model: a request is `WellFormed` for the shapes of its tensors if its axes are axes of the tensor that they are about,
if windows, orders, padding, starts and steps have an entry for each axis, and if no step is zero. Ranks are bounded
where shapes are rearranged. `Ensures` says what is certain of a decision that is made, faults aside.

Main result: `wellFormed_plan`, every request that an operator decides to make is well formed.
-/
import Mathlib.Tactic
import TensorGraph.Operator.Plan

namespace TensorGraph

/-! ## Model -/

/-- a window over some axes: an entry of each list for each axis, and no step of zero -/
structure Spans (axes : Nat) (padding : List (Nat × Nat)) (stride dilation : List Nat) : Prop where
  length_padding : padding.length = axes
  length_stride : stride.length = axes
  length_dilation : dilation.length = axes
  stride_pos : ∀ n ∈ stride, 1 ≤ n
  dilation_pos : ∀ n ∈ dilation, 1 ≤ n

/-- a request that fits the shapes of its tensors -/
def Kernel.WellFormed {τ : Type} (shape : τ → List Nat) : Kernel τ → Prop
  | .conv strategy _ input filter _ output geometry =>
    3 ≤ (shape input).length ∧ (shape input).length ≤ 5 ∧
      (shape filter).length = (shape input).length ∧ (shape output).length = (shape input).length ∧
      Spans ((shape input).length - 2) geometry.padding geometry.stride geometry.dilation ∧
      ∀ n, strategy = .grouped n → 2 ≤ n
  | .pool _ _ input output geometry =>
    1 ≤ (shape input).length ∧ (shape input).length ≤ 5 ∧ (shape output).length = (shape input).length ∧
      geometry.size.length = (shape input).length ∧
      Spans (shape input).length geometry.padding geometry.stride geometry.dilation
  | .transpose x _ order => (shape x).length ≤ 5 ∧ order.Perm (List.range (shape x).length)
  | .slice x _ starts steps =>
    (shape x).length ≤ 5 ∧ List.Forall₂ (· ≤ ·) starts (shape x) ∧ steps.length = (shape x).length ∧
      ∀ n ∈ steps, 1 ≤ n
  | .padConstant x _ padding _ => (shape x).length ≤ 5 ∧ padding.length = (shape x).length
  | .padReplicate x _ padding => (shape x).length ≤ 5 ∧ padding.length = (shape x).length
  | .tile x _ => (shape x).length ≤ 5
  | .reduce _ _ x _ axes => ∀ axis ∈ axes, axis < (shape x).length
  | .argReduce _ x _ axis => axis < (shape x).length
  | .softmax x _ axis => axis < (shape x).length
  | .concat _ output axis _ => axis < (shape output).length
  | .split input _ axis _ => axis < (shape input).length
  | .unary .. | .binary .. | .select .. | .matmul .. | .linear .. => True

/-- an instruction whose request, if it makes one, fits the shapes of its tensors -/
def Instruction.WellFormed {τ : Type} [Handle τ] : Instruction τ → Prop
  | .compute _ kernel => kernel.WellFormed Handle.shape
  | _ => True

/-- what is certain of a decision that is made -/
def Ensures {α : Type} (P : α → Prop) (x : Except RunError α) : Prop := ∀ a, x = .ok a → P a

namespace Kernel

variable {τ υ : Type}

theorem wellFormed_map {f : τ → υ} {shape : υ → List Nat} {k : Kernel τ} :
    (k.map f).WellFormed shape ↔ k.WellFormed (shape ∘ f) := by
  cases k <;> exact Iff.rfl

/-- only the shapes of its own tensors count -/
theorem WellFormed.congr {shape shape' : τ → List Nat} {k : Kernel τ} (h : k.WellFormed shape)
    (heq : ∀ t ∈ k.handles, shape t = shape' t) : k.WellFormed shape' := by
  cases k <;> simp_all [WellFormed, handles]

end Kernel

namespace Ensures

variable {α β : Type} {P : α → Prop} {Q : β → Prop}

theorem ok {a : α} (h : P a) : Ensures P (.ok a) := by
  rintro _ ⟨⟩
  exact h

theorem error {e : RunError} : Ensures P (.error e) := nofun

theorem bind {x : Except RunError α} {k : α → Except RunError β} (hx : Ensures P x) (hk : ∀ a, P a → Ensures Q (k a)) :
    Ensures Q (x >>= k) := by
  cases x with
  | ok a => exact hk a (hx a rfl)
  | error e => exact error

/-- a first part about which nothing is certain -/
theorem after {x : Except RunError α} {k : α → Except RunError β} (hk : ∀ a, Ensures Q (k a)) : Ensures Q (x >>= k) :=
  bind (P := fun _ => True) (fun _ _ => trivial) fun a _ => hk a

theorem mapM {x : α → Except RunError β} (hx : ∀ a, Ensures Q (x a)) (l : List α) :
    Ensures (fun bs => ∀ b ∈ bs, Q b) (l.mapM x) := by
  induction l with
  | nil => exact ok (by simp)
  | cons a rest ih =>
    rw [List.mapM_cons]
    exact (hx a).bind fun b hb => ih.bind fun bs hbs => ok (List.forall_mem_cons.2 ⟨hb, hbs⟩)

end Ensures

/-! ## Axes -/

theorem asSigned_le (n : Nat) : asSigned n ≤ n := by
  rw [asSigned, Int.bmod_def]
  have hmod : (n : Int) % wordSize ≤ n := by exact_mod_cast Nat.mod_le n wordSize
  split <;> omega

theorem lt_of_axisIndex? {axis : Int} {rank i : Nat} (h : axisIndex? axis rank = some i) : i < rank := by
  have hlimit := asSigned_le rank
  obtain ⟨index, hindex⟩ : ∃ index, index = if axis < 0 then axis + asSigned rank else axis := ⟨_, rfl⟩
  simp only [axisIndex?, ← hindex, Option.ite_none_right_eq_some, Option.some.injEq] at h
  omega

theorem perm_of_completePermutation? {axes : List Nat} {rank : Nat} {order : List Nat}
    (h : completePermutation? axes rank = some order) : order.Perm (List.range rank) := by
  unfold completePermutation? at h
  split at h
  · cases h
  · rename_i hle
    dsimp only at h
    split at h
    · rename_i hall
      cases h
      obtain ⟨hlt, hnodup⟩ := hall
      have hsub : axes ++ List.range' axes.length (rank - axes.length) ⊆ List.range rank := fun i hi =>
        List.mem_range.2 (of_decide_eq_true (List.all_eq_true.1 hlt i hi))
      refine (List.subperm_of_subset hnodup hsub).perm_of_length_le ?_
      rw [List.length_range, List.length_append, List.length_range']
      omega
    · cases h

/-! ## Slices -/

theorem le_of_startIndex? {start : Int} {extent i : Nat} (h : startIndex? start extent = some i) : i ≤ extent := by
  have hlimit := asSigned_le extent
  obtain ⟨index, hindex⟩ : ∃ index, index = if start < 0 then start + asSigned extent else start := ⟨_, rfl⟩
  simp only [startIndex?, ← hindex, Option.ite_none_right_eq_some, Option.some.injEq] at h
  omega

theorem forall₂_set {α β : Type} {R : α → β → Prop} {as : List α} {bs : List β} (h : List.Forall₂ R as bs) {i : Nat}
    {a : α} {b : β} (hb : bs[i]? = some b) (hab : R a b) : List.Forall₂ R (as.set i a) bs := by
  induction h generalizing i with
  | nil => exact .nil
  | cons hfirst hrest ih =>
    cases i with
    | zero =>
      cases hb
      exact .cons hab hrest
    | succ i => exact .cons hfirst (ih hb)

theorem setStarts_le {shape : List Nat} {pairs : List (Int × Int)} {starts result : List Nat}
    (hstarts : List.Forall₂ (· ≤ ·) starts shape) (h : setStarts shape pairs starts = some result) :
    List.Forall₂ (· ≤ ·) result shape := by
  induction pairs generalizing starts with
  | nil =>
    cases h
    exact hstarts
  | cons pair rest ih =>
    simp only [setStarts, Option.bind_eq_bind, Option.bind_eq_some_iff] at h
    obtain ⟨axis, -, extent, hextent, start, hstart, h⟩ := h
    exact ih (forall₂_set hstarts hextent (le_of_startIndex? hstart)) h

theorem sliceStarts?_le {shape : List Nat} {axes starts : List Int} {result : List Nat}
    (h : sliceStarts? shape axes starts = some result) : List.Forall₂ (· ≤ ·) result shape := by
  unfold sliceStarts? at h
  split at h
  · cases h
  · refine setStarts_le ?_ h
    rw [List.forall₂_iff_get]
    simp

theorem setSteps_pos {rank : Nat} {pairs : List (Int × Int)} {steps result : List Nat} (hlength : steps.length = rank)
    (hpos : ∀ n ∈ steps, 1 ≤ n) (h : setSteps rank pairs steps = some result) :
    result.length = rank ∧ ∀ n ∈ result, 1 ≤ n := by
  induction pairs generalizing steps with
  | nil =>
    cases h
    exact ⟨hlength, hpos⟩
  | cons pair rest ih =>
    simp only [setSteps, Option.bind_eq_bind, Option.bind_eq_some_iff, Option.ite_none_left_eq_some] at h
    obtain ⟨axis, -, hstep, h⟩ := h
    refine ih (by rw [List.length_set, hlength]) (fun n hn => ?_) h
    rcases List.mem_or_eq_of_mem_set hn with hn | rfl
    · exact hpos n hn
    · omega

theorem sliceSteps?_pos {rank : Nat} {axes steps : List Int} {result : List Nat}
    (h : sliceSteps? rank axes steps = some result) : result.length = rank ∧ ∀ n ∈ result, 1 ≤ n := by
  unfold sliceSteps? at h
  split at h
  · cases h
    simp
  · split at h
    · cases h
    · exact setSteps_pos (by simp) (by simp) h

/-! ## Padding -/

theorem length_samePaddings {input output window stride dilation : List Nat} {padding : List (Nat × Nat)}
    (h : samePaddings input output window stride dilation = some padding) (houtput : output.length = input.length)
    (hwindow : window.length = input.length) (hstride : stride.length = input.length)
    (hdilation : dilation.length = input.length) : padding.length = input.length := by
  induction input generalizing output window stride dilation padding with
  | nil =>
    cases h
    rfl
  | cons i is ih =>
    obtain ⟨o, os, rfl⟩ := List.exists_cons_of_length_eq_add_one houtput
    obtain ⟨w, ws, rfl⟩ := List.exists_cons_of_length_eq_add_one hwindow
    obtain ⟨s, ss, rfl⟩ := List.exists_cons_of_length_eq_add_one hstride
    obtain ⟨d, ds, rfl⟩ := List.exists_cons_of_length_eq_add_one hdilation
    simp only [samePaddings, Option.bind_eq_bind, Option.bind_eq_some_iff, Option.some.injEq] at h
    obtain ⟨p, -, rest, hrest, rfl⟩ := h
    simp only [List.length_cons, Nat.add_right_cancel_iff] at houtput hwindow hstride hdilation ⊢
    exact ih hrest houtput hwindow hstride hdilation

namespace Operation

variable (op : Operation) (key : String)

/-! ## Attributes -/

/-- a list attribute that is there has items -/
theorem ensures_items (expected : String) :
    Ensures (fun found => ∀ v l, found = some (v, l) → l ≠ []) (op.items key expected) := by
  unfold items
  split
  · exact .ok nofun
  · split
    · exact .error
    · exact .ok nofun
    · rename_i l hnil _
      exact .ok fun v l' h => by cases h; exact hnil

theorem ensures_integers : Ensures (fun found => ∀ l, found = some l → l ≠ []) (op.integers key) := by
  refine (op.ensures_items key _).bind fun found hfound => ?_
  split
  · exact .ok nofun
  · rename_i v l
    split
    · rename_i l' hl'
      refine .ok fun result h hnil => hfound v l rfl ?_
      cases h
      obtain rfl := List.map_eq_nil_iff.1 hnil
      cases l with
      | nil => rfl
      | cons w rest => simp [List.mapM_cons, Option.bind_eq_some_iff] at hl'
    · exact .error

theorem ensures_sizes : Ensures (fun found => ∀ l, found = some l → l ≠ []) (op.sizes key) := by
  refine (op.ensures_integers key).bind fun found hfound => ?_
  split
  · exact .ok nofun
  · rename_i l
    split
    · refine .ok fun result h hnil => hfound l rfl ?_
      cases h
      exact List.map_eq_nil_iff.1 hnil
    · exact .error

theorem ensures_axisIndex (axis : Int) (rank : Nat) : Ensures (· < rank) (op.axisIndex key axis rank) := by
  unfold axisIndex
  split
  · rename_i i hi
    exact .ok (lt_of_axisIndex? hi)
  · exact .error

theorem ensures_singleAxis (default : List Int) (rank : Nat) : Ensures (· < rank) (op.singleAxis key default rank) := by
  refine .after fun found => ?_
  split
  · exact op.ensures_axisIndex key _ rank
  · exact .error
  · exact .error

theorem ensures_axisList (rank : Nat) :
    Ensures (fun axes => ∀ axis ∈ axes, axis < rank) (op.axisList key rank) :=
  .after fun _ => .mapM (fun axis => op.ensures_axisIndex key axis rank) _

theorem ensures_listAxis (rank : Nat) : Ensures (· < rank) (op.listAxis rank) :=
  .after fun _ => op.ensures_axisIndex _ _ rank

theorem ensures_checkRank (rank max : Nat) : Ensures (fun _ => rank ≤ max) (op.checkRank rank max) := by
  unfold checkRank
  split
  · exact .error
  · rename_i h
    exact .ok (Nat.le_of_not_lt h)

/-- padding for every axis -/
theorem ensures_paddingPerAxis (rank : Nat) :
    Ensures (fun padding => padding.length = rank) (op.paddingPerAxis rank) := by
  refine .after fun found => ?_
  dsimp only
  split
  · exact .error
  · rename_i h
    refine .ok ?_
    rw [List.length_append, List.length_replicate]
    omega

/-! ## Windows -/

theorem ensures_checkSteps (axes : Nat) (entries : List Nat) :
    Ensures (fun _ => entries.length = axes ∧ ∀ n ∈ entries, 1 ≤ n) (op.checkSteps key axes entries) := by
  unfold checkSteps
  split
  · exact .error
  · rename_i hlength
    split
    · exact .error
    · rename_i hzero
      refine .ok ⟨not_not.1 hlength, fun n hn => Nat.one_le_iff_ne_zero.2 fun h => hzero ?_⟩
      rw [List.contains_iff_mem, ← h]
      exact hn

theorem ensures_paddingOrSame {source target window stride dilation : List Nat} (htarget : target.length = source.length)
    (hwindow : window.length = source.length) (hstride : stride.length = source.length)
    (hdilation : dilation.length = source.length) :
    Ensures (fun padding => padding.length = source.length)
      (op.paddingOrSame source target window stride dilation) := by
  refine .after fun found => ?_
  split
  · split
    · exact .error
    · rename_i h
      exact .ok (not_not.1 h)
  · split
    · rename_i padding h
      exact .ok (length_samePaddings h htarget hwindow hstride hdilation)
    · exact .error

theorem ensures_geometry {source target window : List Nat} (htarget : target.length = source.length)
    (hwindow : window.length = source.length) :
    Ensures (fun g => Spans source.length g.padding g.stride g.dilation) (op.geometry source target window) :=
  .after fun _ => .after fun _ =>
    (op.ensures_checkSteps "stride" _ _).bind fun _ hstride =>
      (op.ensures_checkSteps "dilation" _ _).bind fun _ hdilation =>
        (op.ensures_paddingOrSame htarget hwindow hstride.1 hdilation.1).bind fun _ hpadding =>
          .ok ⟨hpadding, hstride.1, hdilation.1, hstride.2, hdilation.2⟩

/-- groups are none, one or several -/
theorem ensures_strategy (channels : Nat) :
    Ensures (fun strategy => ∀ n, strategy = .grouped n → 2 ≤ n) (op.strategy channels) := by
  refine .after fun groups => ?_
  split
  · exact .error
  · refine .ok fun n h => ?_
    unfold ConvStrategy.ofGroups at h
    split_ifs at h
    cases h
    omega

theorem ensures_checkConvRanks (input filter output : Nat) :
    Ensures (fun _ => 3 ≤ input ∧ input ≤ 5 ∧ filter = input ∧ output = input)
      (op.checkConvRanks input filter output) := by
  refine (op.ensures_checkRank input maxConvRank).bind fun _ hinput => .after fun _ => .after fun _ => ?_
  split
  · exact .error
  · rename_i h
    refine .ok ?_
    unfold maxConvRank at hinput
    omega

theorem ensures_windowSize (source target : Nat) :
    Ensures (fun size => 1 ≤ source ∧ size.length = source ∧ target = source) (op.windowSize source target) := by
  refine (op.ensures_sizes "size").bind fun found hfound => ?_
  split
  · exact .error
  · rename_i size
    split
    · exact .error
    · rename_i h
      have hsize := List.length_pos_iff.2 (hfound size rfl)
      refine .ok ?_
      omega

/-! ## Requests -/

variable {τ : Type} [Handle τ]

theorem wellFormed_conv (transposed : Bool) (x k b y : τ) :
    Ensures Instruction.WellFormed (op.planConv transposed x k b y) := by
  refine (op.ensures_checkConvRanks _ _ _).bind fun _ ⟨hlow, hhigh, hfilter, houtput⟩ => ?_
  unfold Handle.rank at hlow hhigh hfilter houtput
  -- the two tensors have the same rank, so it does not matter which of them is in the input role
  have hroles : ∀ source target : τ, (Handle.shape source).length = (Handle.shape x).length →
      (Handle.shape target).length = (Handle.shape x).length → ∀ channels,
      Ensures Instruction.WellFormed (do
        let geometry ← op.geometry ((Handle.shape source).drop 2) ((Handle.shape target).drop 2)
          ((Handle.shape k).drop 2)
        let strategy ← op.strategy channels
        .ok (.compute strategy.request (.conv strategy transposed source k b target geometry))) := by
    intro source target hsource htarget channels
    have hdrop : ∀ l : List Nat, l.length = (Handle.shape x).length →
        (l.drop 2).length = ((Handle.shape source).drop 2).length := fun l hl => by
      rw [List.length_drop, List.length_drop, hl, hsource]
    refine (op.ensures_geometry (hdrop _ htarget) (hdrop _ hfilter)).bind fun g hg =>
      (op.ensures_strategy channels).bind fun strategy hstrategy => .ok ?_
    rw [List.length_drop] at hg
    exact ⟨hsource ▸ hlow, hsource ▸ hhigh, hfilter.trans hsource.symm, htarget.trans hsource.symm, hg, hstrategy⟩
  cases transposed
  · exact hroles x y rfl houtput _
  · exact hroles y x houtput rfl _

theorem wellFormed_pool (family : PoolFamily) (transposed : Bool) (x y : τ) :
    Ensures Instruction.WellFormed (op.planPool family transposed x y) := by
  refine (op.ensures_checkRank _ maxPoolRank).bind fun _ hx => (op.ensures_checkRank _ maxPoolRank).bind fun _ hy => ?_
  have hroles : ∀ source target : τ, Handle.rank source ≤ maxPoolRank → ∀ includeBorder,
      Ensures Instruction.WellFormed (do
        let size ← op.windowSize (Handle.rank source) (Handle.rank target)
        let geometry ← op.geometry (Handle.shape source) (Handle.shape target) size
        let pool ← op.poolOp family
        .ok (.compute .pool (.pool pool transposed source target
          ⟨size, geometry.padding, geometry.stride, geometry.dilation, includeBorder⟩))) := by
    intro source target hsource includeBorder
    refine (op.ensures_windowSize _ _).bind fun size ⟨hlow, hsize, htarget⟩ =>
      (op.ensures_geometry htarget hsize).bind fun g hg => .after fun pool => .ok ?_
    exact ⟨hlow, hsource, htarget, hsize, hg⟩
  cases transposed
  · exact hroles x y hx _
  · exact hroles y x hy _

theorem wellFormed_transpose (x y : τ) : Ensures Instruction.WellFormed (op.planTranspose x y) := by
  refine (op.ensures_checkRank _ maxLayoutRank).bind fun _ hrank => .after fun axes => ?_
  dsimp only
  split
  · rename_i order horder
    exact .ok ⟨hrank, perm_of_completePermutation? horder⟩
  · exact .error

theorem wellFormed_pad (x y : τ) : Ensures Instruction.WellFormed (op.planPad x y) := by
  refine (op.ensures_checkRank _ maxLayoutRank).bind fun _ hrank =>
    (op.ensures_paddingPerAxis _).bind fun padding hpadding => .after fun border => ?_
  split
  · exact .after fun value => .ok ⟨hrank, hpadding⟩
  · exact .ok ⟨hrank, hpadding⟩
  · exact .error

theorem wellFormed_slice (x y : τ) : Ensures Instruction.WellFormed (op.planSlice x y) := by
  refine (op.ensures_checkRank _ maxLayoutRank).bind fun _ hrank => .after fun axes => .after fun begins =>
    .after fun strides => ?_
  dsimp only
  split
  · exact .error
  · rename_i starts hstarts
    split
    · exact .error
    · rename_i steps hsteps
      exact .ok ⟨hrank, sliceStarts?_le hstarts, sliceSteps?_pos hsteps⟩

theorem wellFormed_constant (y : τ) : Ensures Instruction.WellFormed (op.planConstant y) := by
  unfold planConstant
  split
  · exact .error
  · refine .after fun payload => ?_
    dsimp only
    split
    · exact .ok trivial
    · split
      · exact .ok trivial
      · exact .error

end Operation

/-- **Requests are well formed.** Whatever an operator decides to ask of the engine, whatever the attributes of the
operation and the shapes of its operands are, fits the shapes of these operands. -/
theorem wellFormed_plan {τ : Type} [Handle τ] (o : Operator) (op : Operation) (xs : Operands τ o.signature) :
    Ensures Instruction.WellFormed (o.plan op xs) := by
  cases o with
  | reduce kind f => exact (op.ensures_axisList _ _).bind fun axes haxes => .after fun _ => .ok haxes
  | argReduce f => exact (op.ensures_singleAxis _ _ _).bind fun axis haxis => .ok haxis
  | softmax => exact (op.ensures_singleAxis _ _ _).bind fun axis haxis => .ok haxis
  | conv transposed => exact op.wellFormed_conv transposed _ _ _ _
  | pool family transposed => exact op.wellFormed_pool family transposed _ _
  | transpose => exact op.wellFormed_transpose _ _
  | concat singular => exact (op.ensures_listAxis _).bind fun axis haxis => .ok haxis
  | split singular => exact (op.ensures_listAxis _).bind fun axis haxis => .ok haxis
  | pad => exact op.wellFormed_pad _ _
  | tile => exact (op.ensures_checkRank _ Operation.maxLayoutRank).bind fun _ hrank => .ok hrank
  | slice => exact op.wellFormed_slice _ _
  | matmul => exact .after fun _ => .after fun _ => .ok trivial
  | constant => exact op.wellFormed_constant _
  | unimplemented => exact .error
  | _ => exact .ok trivial

end TensorGraph
