/-
Transposed window operations mirror the forward ones.

Model: `Operation.between` puts an operation between two names, whatever its filter, its bias and its attributes are. A
transposed operation from `b` to `a` and a forward one from `a` to `b` see the same source and the same target, so the
window is the same. Only groups are compared with the channels of the input of the operation, which is another tensor
the other way round; the strategy may differ for that reason.

Main result: `transposed_mirrors_forward`, a transposed operation goes well exactly if the forward one does, and then
both make the same request.
-/
import TensorGraph.Proofs.Convolution
import TensorGraph.Proofs.Pooling

namespace TensorGraph

/-! ## Model -/

/-- an operation of another name, from the tensor of `a` to the tensor of `b` -/
def Operation.between (op : Operation) (name a b : String) : Operation :=
  { op with
    name := name
    inputs := op.inputs.insert "input" (.identifier a)
    outputs := op.outputs.insert "output" (.identifier b) }

/-- the filter and the bias of a convolution, looked up one after the other -/
def Lookup.FindsWeights {τ : Type} (env : String → Option τ) (op : Operation) (filter bias : Operand τ)
    (ls : List Literal) : Prop :=
  ∃ v seen, op.input? "filter" = some v ∧ Resolves env v [] filter seen ∧
    Resolves env ((op.input? "bias").getD (.scalar .zero)) seen bias ls

/-- the log of a session after a kernel that needs the given literals -/
def Session.logAfter (s : Session Recorder BufferRef) (ls : List Literal) (kernel : Kernel Nat) : List Call :=
  s.engine.log.toList ++ literalCalls s.engine.buffers.size ls ++ [.compute kernel] ++
    (List.range' s.engine.buffers.size ls.length).map Call.release

/-- the name of a convolution -/
def convName (transposed : Bool) : String := if transposed then "deconv" else "conv"

/-- the name of a box -/
def boxName (transposed : Bool) : String := if transposed then "debox" else "box"

theorem named?_convName (transposed : Bool) :
    Operator.named? (convName transposed) = some ⟨convName transposed, .conv transposed⟩ := by
  cases transposed <;> decide +kernel

theorem boxName_mem_poolings (transposed : Bool) : (boxName transposed, .box, transposed) ∈ poolings := by
  cases transposed <;> decide +kernel

namespace Operation

variable {op op' : Operation}

/-! ## Attributes are all that describes a window -/

section

variable {key : String} {source target window stride dilation : List Nat}

theorem attribute?_congr (h : op'.attributes = op.attributes) (key : String) :
    op'.attribute? key = op.attribute? key := by
  rw [attribute?, h, attribute?]

theorem Lacks.congr (h : op'.attributes = op.attributes) (hl : op.Lacks key) : op'.Lacks key := by
  rwa [Lacks, attribute?_congr h]

theorem ListsSizes.congr {l : List Nat} (h : op'.attributes = op.attributes) (hl : op.ListsSizes key l) :
    op'.ListsSizes key l := by
  rwa [ListsSizes, attribute?_congr h]

theorem ListsPairs.congr {l : List (Nat × Nat)} (h : op'.attributes = op.attributes) (hl : op.ListsPairs key l) :
    op'.ListsPairs key l := by
  rwa [ListsPairs, attribute?_congr h]

theorem GivesSteps.congr {axes : Nat} {l : List Nat} (h : op'.attributes = op.attributes)
    (hl : op.GivesSteps key axes l) : op'.GivesSteps key axes l := by
  cases hl with
  | given hl hlength hpos => exact .given (hl.congr h) hlength hpos
  | missing hl => exact .missing (hl.congr h)

theorem GivesPadding.congr {l : List (Nat × Nat)} (h : op'.attributes = op.attributes)
    (hl : op.GivesPadding source target window stride dilation l) :
    op'.GivesPadding source target window stride dilation l := by
  cases hl with
  | given hl hlength => exact .given (hl.congr h) hlength
  | missing hl hreach => exact .missing (hl.congr h) hreach

theorem GivesWindow.congr {geometry : ConvGeometry} (h : op'.attributes = op.attributes)
    (hw : op.GivesWindow source target window geometry) : op'.GivesWindow source target window geometry :=
  ⟨hw.stride.congr h, hw.dilation.congr h, hw.padding.congr h⟩

theorem GivesPool.congr {family : PoolFamily} {pool : PoolOp} (h : op'.attributes = op.attributes)
    (hp : op.GivesPool family pool) : op'.GivesPool family pool := by
  cases hp with
  | avg => exact .avg
  | max => exact .max
  | missing hn => exact .missing ((attribute?_congr h _).trans hn)
  | normalize hn => exact .normalize ((attribute?_congr h _).trans hn)

end

/-! ## Strategies -/

/-- a strategy is read off the number of groups, one if there is none -/
theorem givesStrategy_iff {channels : Nat} {strategy : ConvStrategy} :
    op.GivesStrategy channels strategy ↔ ∃ n, op.integer "groups" 1 = .ok n ∧ 0 ≤ n.toInt ∧
      strategy = .ofGroups n.toInt.toNat channels := by
  rw [← strategy_eq_ok_iff, Operation.strategy, except_bind_eq_ok_iff]
  refine exists_congr fun n => and_congr_right fun _ => ?_
  by_cases hneg : n.toInt < 0
  · rw [if_pos hneg]
    constructor
    · intro h
      cases h
    · rintro ⟨hpos, -⟩
      exact absurd hneg (Int.not_lt.2 hpos)
  · rw [if_neg hneg, Except.ok.injEq]
    exact ⟨fun h => ⟨Int.not_lt.1 hneg, h.symm⟩, fun h => h.2.symm⟩

theorem integer_congr {key : String} {default n : Int64} (h : op'.attributes = op.attributes) :
    op'.integer key default = .ok n ↔ op.integer key default = .ok n := by
  rw [integer_eq_ok_iff, integer_eq_ok_iff, attribute?_congr h]

/-- groups that fit one number of channels fit any other -/
theorem GivesStrategy.other {channels : Nat} {strategy : ConvStrategy} (h : op.GivesStrategy channels strategy)
    (h' : op'.attributes = op.attributes) (channels' : Nat) : ∃ strategy', op'.GivesStrategy channels' strategy' := by
  obtain ⟨n, hn, hpos, -⟩ := givesStrategy_iff.1 h
  exact ⟨_, givesStrategy_iff.2 ⟨n, (integer_congr h').2 hn, hpos, rfl⟩⟩

/-- the number of channels does not matter if there are no groups, a single one, or one for each channel -/
theorem GivesStrategy.unique {channels channels' : Nat} {strategy strategy' : ConvStrategy}
    (h : op.GivesStrategy channels strategy) (h' : op'.GivesStrategy channels' strategy')
    (hattributes : op'.attributes = op.attributes)
    (hgroups : op.attribute? "groups" = none ∨ op.attribute? "groups" = some (.integer 0) ∨
      op.attribute? "groups" = some (.integer 1) ∨ channels = channels') : strategy' = strategy := by
  obtain ⟨n, hn, -, rfl⟩ := givesStrategy_iff.1 h
  obtain ⟨m, hm, -, rfl⟩ := givesStrategy_iff.1 h'
  obtain rfl : n = m := Except.ok.inj (hn.symm.trans ((integer_congr hattributes).1 hm))
  have hgiven := integer_eq_ok_iff.1 hn
  rcases hgroups with hnone | hzero | hone | rfl
  · obtain rfl : n = 1 := by simpa [hnone] using hgiven
    rfl
  · obtain rfl : 0 = n := by simpa [hzero] using hgiven
    rfl
  · obtain rfl : 1 = n := by simpa [hone] using hgiven
    rfl
  · rfl

/-! ## The other way round -/

/-- a convolution described the other way round: the roles are the same, and so is the window -/
theorem DescribesConv.mirror {transposed : Bool} {input filter output : List Nat} {strategy strategy' : ConvStrategy}
    {geometry : ConvGeometry} (h : op.DescribesConv transposed input filter output strategy geometry)
    (hattributes : op'.attributes = op.attributes) (hkind : op'.dtype = op.dtype)
    (hstrategy : op'.GivesStrategy (output.getD 1 0) strategy') :
    op'.DescribesConv (!transposed) output filter input strategy' geometry := by
  obtain ⟨hthree, hfive, hfilter, houtput⟩ := h.rank
  have hwindow := h.window.congr hattributes
  refine { rank := ?_, window := ?_, strategy := hstrategy, kind := ?_, border := ?_ }
  · rw [houtput]
    exact ⟨hthree, hfive, hfilter, rfl⟩
  · cases transposed <;> exact hwindow
  · rw [hkind]
    exact h.kind
  · rw [attribute?_congr hattributes]
    exact h.border

/-- pooling described the other way round -/
theorem DescribesPooling.mirror {family : PoolFamily} {transposed : Bool} {input output : List Nat} {pool : PoolOp}
    {geometry : PoolGeometry} (h : op.DescribesPooling family transposed input output pool geometry)
    (hattributes : op'.attributes = op.attributes) (hkind : op'.dtype = op.dtype) :
    op'.DescribesPooling family (!transposed) output input pool geometry := by
  obtain ⟨hpos, hfive, houtput⟩ := h.rank
  have hwindow := h.window.congr hattributes
  refine {
    rank := ?_
    size := ⟨h.size.1.congr hattributes, h.size.2.trans houtput.symm⟩
    window := ?_
    pool := h.pool.congr hattributes
    includeBorder := ?_
    kind := ?_
    border := ?_ }
  · rw [houtput]
    exact ⟨hpos, hfive, rfl⟩
  · cases transposed <;> exact hwindow
  · rw [attribute?_congr hattributes]
    exact h.includeBorder
  · rw [hkind]
    exact h.kind
  · rw [attribute?_congr hattributes]
    exact h.border

/-! ## Operands -/

variable (op)

@[simp] theorem input?_between (name a b : String) : (op.between name a b).input? "input" = some (.identifier a) := by
  simp [between, input?]

@[simp] theorem output?_between (name a b : String) :
    (op.between name a b).output? "output" = some (.identifier b) := by
  simp [between, output?]

theorem input?_between_of_ne {key : String} (h : key ≠ "input") (name a b : String) :
    (op.between name a b).input? key = op.input? key := by
  simp [between, input?, h]

end Operation

namespace Lookup

variable {τ : Type} {env : String → Option τ} {a b : String} {x y : τ}

theorem resolves_identifier_iff (h : env a = some x) {seen all : List Literal} {z : Operand τ} :
    Resolves env (.identifier a) seen z all ↔ z = .bound x ∧ all = seen := by
  constructor
  · rintro (hz | hl)
    · cases h.symm.trans hz
      exact ⟨rfl, rfl⟩
    · cases hl
  · rintro ⟨rfl, rfl⟩
    exact .bound h

/-- between bound names, a convolution finds its operands if it finds its filter and its bias -/
theorem fillSlots_between_conv (ha : env a = some x) (hb : env b = some y) (op : Operation) (name : String)
    (transposed : Bool) {xs : Operands (Operand τ) (Operator.conv transposed).signature} {ls : List Literal} :
    (supply env).fillSlots (op.between name a b) (Operator.conv transposed).signature [] = .ok xs ls ↔
      ∃ filter bias, FindsWeights env op filter bias ls ∧ xs = (.bound x, filter, bias, .bound y, ()) := by
  obtain ⟨input, filter, bias, output, u⟩ := xs
  have hfilter : (op.between name a b).input? "filter" = op.input? "filter" :=
    op.input?_between_of_ne (by decide +kernel) name a b
  have hbias : (op.between name a b).input? "bias" = op.input? "bias" :=
    op.input?_between_of_ne (by decide +kernel) name a b
  have hslot : ∀ seen all, (supply env).fillSlot (op.between name a b) .bias seen = .ok bias all ↔
      Resolves env ((op.input? "bias").getD (.scalar .zero)) seen bias all := fun seen all => by
    rw [← hbias]
    exact resolve_eq_ok_iff
  constructor
  · intro h
    obtain ⟨_, hinput, hfirst⟩ := fillSlots_cons_eq_ok_iff.1 h
    obtain ⟨seen, hweights, hsecond⟩ := fillSlots_cons_eq_ok_iff.1 hfirst
    obtain ⟨_, hadded, hthird⟩ := fillSlots_cons_eq_ok_iff.1 hsecond
    obtain ⟨_, houtput, hnil⟩ := fillSlots_cons_eq_ok_iff.1 hthird
    obtain ⟨_, hv, hx⟩ := fillSlot_input_eq_ok_iff.1 hinput
    cases (op.input?_between name a b).symm.trans hv
    obtain ⟨rfl, rfl⟩ := (resolves_identifier_iff ha).1 hx
    obtain ⟨_, hv, hy⟩ := fillSlot_output_eq_ok_iff.1 houtput
    cases (op.output?_between name a b).symm.trans hv
    obtain ⟨rfl, rfl⟩ := (resolves_identifier_iff hb).1 hy
    obtain ⟨v, hv, hw⟩ := fillSlot_input_eq_ok_iff.1 hweights
    cases hnil
    exact ⟨filter, bias, ⟨v, seen, hfilter.symm.trans hv, hw, (hslot _ _).1 hadded⟩, rfl⟩
  · rintro ⟨_, _, ⟨v, seen, hv, hw, hc⟩, h⟩
    cases h
    have hinput : Resolves env (.identifier a) [] (.bound x) [] := .bound ha
    have houtput : Resolves env (.identifier b) ls (.bound y) ls := .bound hb
    have hx := fillSlot_input_eq_ok_iff.2 ⟨_, op.input?_between name a b, hinput⟩
    have hy := fillSlot_output_eq_ok_iff.2 ⟨_, op.output?_between name a b, houtput⟩
    have hw := fillSlot_input_eq_ok_iff.2 ⟨v, hfilter.trans hv, hw⟩
    exact fillSlots_cons hx (fillSlots_cons hw (fillSlots_cons ((hslot _ _).2 hc) (fillSlots_cons hy rfl)))

end Lookup

namespace Session

variable {s s' : Session Recorder BufferRef} {a b : String} {x y : BufferRef}

/-- what is in the log after an operation that went well -/
theorem logAfter_of_ok {op : Operation} {ls : List Literal} {request : Primitive} {kernel : Kernel BufferRef}
    (h : performNamed op s = .ok () (s.performed ls (.compute request kernel))) :
    (reached (performNamed op s)).engine.log.toList = s.logAfter ls (kernel.map BufferRef.id) := by
  rw [h, reached_ok, log_performed]
  rfl

/-! ## Between names -/

/-- a convolution between bound names goes well if its filter and its bias are found and it is described -/
theorem performNamed_between_conv_eq_ok_iff {name : String} {transposed : Bool} (hs : s.scratch = [])
    (hfail : s.engine.failOn = none) (hname : Operator.named? name = some ⟨name, .conv transposed⟩)
    (ha : s.bindings.find? a = some x) (hb : s.bindings.find? b = some y) (op : Operation) :
    performNamed (op.between name a b) s = .ok () s' ↔ ∃ filter bias ls strategy geometry,
      Lookup.FindsWeights s.bindings.find? op filter bias ls ∧
      (op.between name a b).DescribesConv transposed x.shape (Handle.shape filter) y.shape strategy geometry ∧
      s' = s.performed ls (.compute strategy.request (.conv strategy transposed (if transposed then y else x)
        (filter.ref s.engine.buffers.size) (bias.ref s.engine.buffers.size) (if transposed then x else y)
        geometry)) := by
  rw [performNamed_eq_ok_iff_exists hs hfail hname rfl, Operator.precheck_conv_eq_ok_iff]
  simp only [Lookup.fillSlots_between_conv ha hb]
  constructor
  · rintro ⟨hkind, hborder, _, ls, ⟨filter, bias, hweights, rfl⟩, i, hplan, rfl⟩
    obtain ⟨strategy, geometry, hgives, rfl⟩ := Operation.planConv_eq_ok_iff.1 hplan
    refine ⟨filter, bias, ls, strategy, geometry, hweights, ⟨hgives, hkind, hborder⟩, ?_⟩
    cases transposed <;> rfl
  · rintro ⟨filter, bias, ls, strategy, geometry, hweights, ⟨hgives, hkind, hborder⟩, rfl⟩
    refine ⟨hkind, hborder, _, ls, ⟨filter, bias, hweights, rfl⟩, _,
      Operation.planConv_eq_ok_iff.2 ⟨strategy, geometry, hgives, rfl⟩, ?_⟩
    cases transposed <;> rfl

/-- a convolution between bound names that goes well goes well the other way round, with the same window -/
theorem conv_mirrored (transposed : Bool) (hs : s.scratch = []) (hfail : s.engine.failOn = none)
    (ha : s.bindings.find? a = some x) (hb : s.bindings.find? b = some y) {op : Operation}
    (h : performNamed (op.between (convName transposed) a b) s = .ok () s') :
    let source := if transposed then y else x
    let target := if transposed then x else y
    ∃ ls strategy strategy' filter bias geometry,
      s' = s.performed ls (.compute strategy.request (.conv strategy transposed source filter bias target geometry)) ∧
      performNamed (op.between (convName !transposed) b a) s =
        .ok () (s.performed ls
          (.compute strategy'.request (.conv strategy' (!transposed) source filter bias target geometry))) ∧
      (op.attribute? "groups" = none ∨ op.attribute? "groups" = some (.integer 0) ∨
        op.attribute? "groups" = some (.integer 1) ∨ x.shape.getD 1 0 = y.shape.getD 1 0 → strategy' = strategy) := by
  obtain ⟨filter, bias, ls, strategy, geometry, hweights, hdescribes, rfl⟩ :=
    (performNamed_between_conv_eq_ok_iff hs hfail (named?_convName _) ha hb op).1 h
  have hattributes : (op.between (convName !transposed) b a).attributes =
      (op.between (convName transposed) a b).attributes := rfl
  obtain ⟨strategy', hstrategy⟩ := hdescribes.strategy.other hattributes (y.shape.getD 1 0)
  have hmirror := hdescribes.mirror hattributes rfl hstrategy
  refine ⟨ls, strategy, strategy', _, _, geometry, rfl, ?_, hdescribes.strategy.unique hstrategy hattributes⟩
  refine (performNamed_between_conv_eq_ok_iff hs hfail (named?_convName _) hb ha op).2
    ⟨filter, bias, ls, strategy', geometry, hweights, hmirror, ?_⟩
  cases transposed <;> rfl

/-- pooling between bound names that goes well goes well the other way round, with the same window -/
theorem box_mirrored (transposed : Bool) (hs : s.scratch = []) (hfail : s.engine.failOn = none)
    (ha : s.bindings.find? a = some x) (hb : s.bindings.find? b = some y) {op : Operation}
    (h : performNamed (op.between (boxName transposed) a b) s = .ok () s') :
    let source := if transposed then y else x
    let target := if transposed then x else y
    ∃ pool geometry, s' = s.performed [] (.compute .pool (.pool pool transposed source target geometry)) ∧
      performNamed (op.between (boxName !transposed) b a) s =
        .ok () (s.performed [] (.compute .pool (.pool pool (!transposed) source target geometry))) := by
  obtain ⟨pool, geometry, hdescribes, rfl⟩ := (performNamed_pool_eq_ok_iff hs hfail (boxName_mem_poolings transposed)
    ⟨a, op.input?_between _ a b, ha⟩ ⟨b, op.output?_between _ a b, hb⟩ s').1 h
  have hmirror : (op.between (boxName !transposed) b a).DescribesPooling .box (!transposed) y.shape x.shape pool
      geometry := hdescribes.mirror rfl rfl
  refine ⟨pool, geometry, rfl, ?_⟩
  refine (performNamed_pool_eq_ok_iff hs hfail (boxName_mem_poolings !transposed)
    ⟨b, op.input?_between _ b a, hb⟩ ⟨a, op.output?_between _ b a, ha⟩ _).2 ⟨pool, geometry, hmirror, ?_⟩
  cases transposed <;> rfl

end Session

/-! ## Main result -/

open Session in
/-- **Transposed window operations mirror the forward ones.** Take any session on a recorder without failures, whatever
its history, two bound names `a` and `b`, and the filter, the bias and the attributes of any operation. A transposed
convolution from `b` to `a` goes well exactly if the convolution from `a` to `b` does.

Then both store the same literals and log the same kernel, from the tensor of `a` to the one of `b`, but for the flag
and maybe the strategy. The strategies are the same if there are no groups, one, or one for each channel, and also if
both tensors have as many channels. For boxes all is the same but for the flag. -/
theorem transposed_mirrors_forward (history : List Step) (op : Operation) {a b : String} {x y : BufferRef}
    (ha : ((fresh none).after history).bindings.find? a = some x)
    (hb : ((fresh none).after history).bindings.find? b = some y) :
    let s := (fresh none).after history
    let conv := performNamed (op.between "conv" a b) s
    let deconv := performNamed (op.between "deconv" b a) s
    let box := performNamed (op.between "box" a b) s
    let debox := performNamed (op.between "debox" b a) s
    ((∃ s', deconv = .ok () s') ↔ ∃ s', conv = .ok () s') ∧
    ((∃ s', conv = .ok () s') → ∃ ls strategy strategy' filter bias geometry,
      (reached conv).engine.log.toList = s.logAfter ls (.conv strategy false x.id filter bias y.id geometry) ∧
      (reached deconv).engine.log.toList = s.logAfter ls (.conv strategy' true x.id filter bias y.id geometry) ∧
      (op.attribute? "groups" = none ∨ op.attribute? "groups" = some (.integer 0) ∨
        op.attribute? "groups" = some (.integer 1) ∨ x.shape.getD 1 0 = y.shape.getD 1 0 → strategy' = strategy)) ∧
    ((∃ s', debox = .ok () s') ↔ ∃ s', box = .ok () s') ∧
    ((∃ s', box = .ok () s') → ∃ pool geometry,
      (reached box).engine.log.toList = s.logAfter [] (.pool pool false x.id y.id geometry) ∧
      (reached debox).engine.log.toList = s.logAfter [] (.pool pool true x.id y.id geometry)) := by
  intro s conv deconv box debox
  obtain ⟨hcoupled, hscratch⟩ := coupled_after none history
  have hfail := hcoupled.failOn_eq
  refine ⟨⟨?_, ?_⟩, ?_, ⟨?_, ?_⟩, ?_⟩
  · rintro ⟨s', hs'⟩
    obtain ⟨_, _, _, _, _, _, -, h, -⟩ := conv_mirrored true hscratch hfail hb ha hs'
    exact ⟨_, h⟩
  · rintro ⟨s', hs'⟩
    obtain ⟨_, _, _, _, _, _, -, h, -⟩ := conv_mirrored false hscratch hfail ha hb hs'
    exact ⟨_, h⟩
  · rintro ⟨s', hs'⟩
    obtain ⟨ls, strategy, strategy', filter, bias, geometry, rfl, h, hstrategy⟩ :=
      conv_mirrored false hscratch hfail ha hb hs'
    exact ⟨ls, strategy, strategy', filter.id, bias.id, geometry, logAfter_of_ok hs', logAfter_of_ok h, hstrategy⟩
  · rintro ⟨s', hs'⟩
    obtain ⟨_, _, -, h⟩ := box_mirrored true hscratch hfail hb ha hs'
    exact ⟨_, h⟩
  · rintro ⟨s', hs'⟩
    obtain ⟨_, _, -, h⟩ := box_mirrored false hscratch hfail ha hb hs'
    exact ⟨_, h⟩
  · rintro ⟨s', hs'⟩
    obtain ⟨pool, geometry, rfl, h⟩ := box_mirrored false hscratch hfail ha hb hs'
    exact ⟨pool, geometry, logAfter_of_ok hs', logAfter_of_ok h⟩

open Session in
/-- from two channels to four and back, in two groups: there is a filter for each channel one way, and half of the
channels for each the other way; the padding that is not given is the same -/
theorem transposed_mirrors_forward_uneven :
    let history : List Step := [.create ⟨"x", .float, [1, 2, 3], none⟩, .create ⟨"y", .float, [1, 4, 4], none⟩,
      .create ⟨"w", .float, [4, 1, 2], none⟩]
    let op := (((Operation.named "" .float).withInput "filter" (.identifier "w")).withAttribute "groups"
      (.integer 2)).withAttribute "size" (.ofIntegers [1, 1, 2])
    let s := (fresh none).after history
    (s.bindings.find? "x" = some ⟨0, .float, [1, 2, 3]⟩ ∧ s.bindings.find? "y" = some ⟨1, .float, [1, 4, 4]⟩) ∧
    ((∃ s', performNamed (op.between "deconv" "y" "x") s = .ok () s') ∧
      ∃ s', performNamed (op.between "debox" "y" "x") s = .ok () s') ∧
    (reached (performNamed (op.between "conv" "x" "y") s)).engine.log.toList = s.logAfter [.float .zero]
      (.conv .depthwise false 0 2 3 1 ⟨[(1, 1)], [1], [1]⟩) ∧
    (reached (performNamed (op.between "deconv" "y" "x") s)).engine.log.toList = s.logAfter [.float .zero]
      (.conv (.grouped 2) true 0 2 3 1 ⟨[(1, 1)], [1], [1]⟩) ∧
    (reached (performNamed (op.between "box" "x" "y") s)).engine.log.toList = s.logAfter []
      (.pool .sum false 0 1 ⟨[1, 1, 2], [(0, 0), (1, 1), (1, 1)], [1, 1, 1], [1, 1, 1], true⟩) ∧
    (reached (performNamed (op.between "debox" "y" "x") s)).engine.log.toList = s.logAfter []
      (.pool .sum true 0 1 ⟨[1, 1, 2], [(0, 0), (1, 1), (1, 1)], [1, 1, 1], [1, 1, 1], true⟩) := by
  intro history op s
  have hx : s.bindings.find? "x" = some ⟨0, .float, [1, 2, 3]⟩ := by decide +kernel
  have hy : s.bindings.find? "y" = some ⟨1, .float, [1, 4, 4]⟩ := by decide +kernel
  have hconv : fault? (performNamed (op.between "conv" "x" "y") s) = none := by decide +kernel
  have hbox : fault? (performNamed (op.between "box" "x" "y") s) = none := by decide +kernel
  obtain ⟨hdeconv, -, hdebox, -⟩ := transposed_mirrors_forward history op hx hy
  refine ⟨⟨hx, hy⟩, ⟨hdeconv.2 (exists_ok_iff.2 hconv), hdebox.2 (exists_ok_iff.2 hbox)⟩, ?_, ?_, ?_, ?_⟩ <;>
    decide +kernel

end TensorGraph
