/-
Which tensor decides about depthwise convolution.

Model: a convolution in more than one group, or in none, is depthwise if there is a group for each channel.
`ConvStrategy.inGroups` says so of a given number of channels. The channels that count are those of the input of the
operation. In a transposed convolution that tensor is in the output role of the kernel, so a kernel may be depthwise
although its own input has more channels than there are groups, or in groups although there is one for each. Sessions
are those on a recorder, whatever their history and whichever primitive always fails.

Main result: `depthwise_by_operation_input`, with the cases in which the input of the kernel decides as well.
-/
import TensorGraph.Proofs.Mirror

namespace TensorGraph

/-! ## Model -/

/-- how the channels are connected by any number of groups but one -/
def ConvStrategy.inGroups (groups : Int) (channels : Nat) : ConvStrategy :=
  if groups = 0 ∨ groups = channels then .depthwise else .grouped groups.toNat

namespace ConvStrategy

variable {groups : Int} {channels channels' : Nat}

theorem inGroups_eq_depthwise_iff : inGroups groups channels = .depthwise ↔ groups = 0 ∨ groups = channels := by
  rw [inGroups]
  split_ifs with h
  · exact ⟨fun _ => h, fun _ => rfl⟩
  · exact ⟨nofun, fun h' => absurd h' h⟩

/-- two numbers of channels decide alike unless just one of them is the number of groups -/
theorem inGroups_eq_inGroups_iff :
    inGroups groups channels = inGroups groups channels' ↔ groups = 0 ∨ (groups = channels ↔ groups = channels') := by
  rw [inGroups, inGroups]
  split_ifs with h h' h'
  · exact ⟨fun _ => by tauto, fun _ => rfl⟩
  · exact ⟨nofun, fun _ => by tauto⟩
  · exact ⟨nofun, fun _ => by tauto⟩
  · exact ⟨fun _ => by tauto, fun _ => rfl⟩

end ConvStrategy

/-- groups that are given decide by the channels -/
theorem Operation.GivesStrategy.eq_inGroups {op : Operation} {channels : Nat} {strategy : ConvStrategy} {g : Int64}
    (h : op.GivesStrategy channels strategy) (hgroups : op.attribute? "groups" = some (.integer g))
    (hne : g.toInt ≠ 1) : strategy = .inGroups g.toInt channels := by
  cases h with
  | missing hnone => cases hgroups.symm.trans hnone
  | one hn hone =>
    cases hgroups.symm.trans hn
    exact absurd hone hne
  | channels hn hchannels _ =>
    cases hgroups.symm.trans hn
    exact (ConvStrategy.inGroups_eq_depthwise_iff.2 hchannels).symm
  | groups hn hpos _ hchannels =>
    cases hgroups.symm.trans hn
    exact (if_neg (not_or.2 ⟨Int.ne_of_gt hpos, hchannels⟩)).symm

namespace Session

variable {s s' : Session Recorder BufferRef} {op : Operation} {transposed : Bool}

/-- a name is bound to one tensor -/
theorem Names.unique {v : Option Value} {t u : BufferRef} (ht : s.Names v t) (hu : s.Names v u) : t = u := by
  obtain ⟨name, rfl, ht⟩ := ht
  obtain ⟨name', hname', hu⟩ := hu
  cases hname'
  exact Option.some.inj (ht.symm.trans hu)

/-- a value that is resolved to a tensor with axes is the name of a bound one, since literals have no axes -/
theorem names_of_resolves {v : Value} {seen all : List Literal} {x : Operand BufferRef}
    (h : Lookup.Resolves s.bindings.find? v seen x all) (hrank : 3 ≤ (Handle.shape x).length) :
    ∃ t, x = .bound t ∧ s.Names (some v) t := by
  cases h with
  | bound ht => exact ⟨_, rfl, _, rfl, ht⟩
  | literal => exact absurd hrank (by simp [Handle.shape])

/-- the operands of a convolution that fit in rank are bound tensors, but for the bias -/
theorem names_of_fillSlots {x filter bias y : Operand BufferRef} {ls : List Literal}
    (h : (Lookup.supply s.bindings.find?).fillSlots op (Operator.conv transposed).signature [] =
      .ok (x, filter, bias, y, ()) ls)
    (hthree : 3 ≤ (Handle.shape x).length) (hfilter : (Handle.shape filter).length = (Handle.shape x).length)
    (hy : (Handle.shape y).length = (Handle.shape x).length) :
    ∃ input weights output, x = .bound input ∧ filter = .bound weights ∧ y = .bound output ∧
      s.Names (op.input? "input") input ∧ s.Names (op.input? "filter") weights ∧
      s.Names (op.output? "output") output := by
  obtain ⟨_, h₁, h⟩ := Lookup.fillSlots_cons_eq_ok_iff.1 h
  obtain ⟨_, h₂, h⟩ := Lookup.fillSlots_cons_eq_ok_iff.1 h
  obtain ⟨_, -, h⟩ := Lookup.fillSlots_cons_eq_ok_iff.1 h
  obtain ⟨_, h₄, -⟩ := Lookup.fillSlots_cons_eq_ok_iff.1 h
  obtain ⟨v₁, hv₁, hresolves₁⟩ := Lookup.fillSlot_input_eq_ok_iff.1 h₁
  obtain ⟨v₂, hv₂, hresolves₂⟩ := Lookup.fillSlot_input_eq_ok_iff.1 h₂
  obtain ⟨v₄, hv₄, hresolves₄⟩ := Lookup.fillSlot_output_eq_ok_iff.1 h₄
  obtain ⟨input, hx, hinput⟩ := names_of_resolves hresolves₁ hthree
  obtain ⟨weights, hw, hweights⟩ := names_of_resolves hresolves₂ (hfilter ▸ hthree)
  obtain ⟨output, hy', houtput⟩ := names_of_resolves hresolves₄ (hy ▸ hthree)
  exact ⟨input, weights, output, hx, hw, hy', hv₁ ▸ hinput, hv₂ ▸ hweights, hv₄ ▸ houtput⟩

/-- a convolution that goes well is between bound tensors, and connects the channels by those of its input -/
theorem performNamed_conv_ok {g : Int64} (hs : s.scratch = []) (hname : op.name = convName transposed)
    (hgroups : op.attribute? "groups" = some (.integer g)) (hne : g.toInt ≠ 1) (h : performNamed op s = .ok () s') :
    ∃ input filter output bias : BufferRef, ∃ ls geometry, s.Names (op.input? "input") input ∧
      s.Names (op.input? "filter") filter ∧ s.Names (op.output? "output") output ∧
      s'.engine.log.toList = s.logAfter ls (.conv (.inGroups g.toInt (input.shape.getD 1 0)) transposed
        (if transposed then output else input).id filter.id bias.id (if transposed then input else output).id
        geometry) := by
  have hperform : perform (.conv transposed) op s = .ok () s' := by
    rwa [performNamed, hname, named?_convName] at h
  obtain ⟨i, hd, hlog⟩ := log_of_perform_ok hs hperform
  obtain ⟨⟨x, filter, bias, y, ⟨⟩⟩, hfound, hplan⟩ := plan_of_decision hd
  obtain ⟨strategy, geometry, hgives, rfl⟩ := Operation.planConv_eq_ok_iff.1
    (show op.planConv transposed x filter bias y = .ok i from hplan)
  obtain ⟨hthree, -, hfilter, hy⟩ := hgives.rank
  obtain ⟨input, weights, output, rfl, rfl, rfl, hinput, hweights, houtput⟩ :=
    names_of_fillSlots hfound hthree hfilter hy
  refine ⟨input, weights, output, bias.ref s.engine.buffers.size, (Operator.conv transposed).literals op, geometry,
    hinput, hweights, houtput, ?_⟩
  rw [hgives.strategy.eq_inGroups hgroups hne] at hlog
  cases transposed <;> exact hlog

end Session

/-! ## Main result -/

open Session in
/-- **The input of the operation decides about depthwise convolution.** Take any session on a recorder, whatever its
history and whichever primitive always fails, and a convolution, transposed or not, in any number of groups but one. If
it goes well, the kernel that is logged is depthwise exactly if there are no groups, or one for each channel of the
input of the operation, and otherwise has the groups that are given.

This input is in the input role of the kernel only if the convolution is not transposed. The channels of the tensor in
that role decide alike exactly if the convolution is not transposed, or has no groups, or has a group for each channel
of both tensors, or of neither. -/
theorem depthwise_by_operation_input (failOn : Option String) (history : List Step) {op : Operation}
    {transposed : Bool} {g : Int64} (hname : op.name = convName transposed)
    (hgroups : op.attribute? "groups" = some (.integer g)) (hne : g ≠ 1) :
    let s := (fresh failOn).after history
    fault? (performNamed op s) = none → ∃ input filter output bias : BufferRef, ∃ ls strategy geometry,
      let source := if transposed then output else input
      let target := if transposed then input else output
      s.Names (op.input? "input") input ∧ s.Names (op.input? "filter") filter ∧
      s.Names (op.output? "output") output ∧
      (reached (performNamed op s)).engine.log.toList =
        s.logAfter ls (.conv strategy transposed source.id filter.id bias.id target.id geometry) ∧
      (strategy = .depthwise ↔ g = 0 ∨ g.toInt = input.shape.getD 1 0) ∧
      (strategy ≠ .depthwise → strategy = .grouped g.toInt.toNat) ∧
      (strategy = .inGroups g.toInt (source.shape.getD 1 0) ↔
        transposed = false ∨ g = 0 ∨ (g.toInt = input.shape.getD 1 0 ↔ g.toInt = output.shape.getD 1 0)) := by
  intro s hok
  obtain ⟨-, hscratch⟩ := coupled_after failOn history
  obtain ⟨s', hs'⟩ := exists_ok_iff.2 hok
  have hone : g.toInt ≠ 1 := fun h => hne (Int64.toInt_inj.1 h)
  have hzero : g.toInt = 0 ↔ g = 0 := Int64.toInt_inj (y := 0)
  obtain ⟨input, filter, output, bias, ls, geometry, hinput, hfilter, houtput, hlog⟩ :=
    performNamed_conv_ok hscratch hname hgroups hone hs'
  rw [hs', reached_ok]
  refine ⟨input, filter, output, bias, ls, _, geometry, hinput, hfilter, houtput, hlog, ?_, fun hnot => ?_, ?_⟩
  · rw [ConvStrategy.inGroups_eq_depthwise_iff, hzero]
  · exact if_neg fun h => hnot (ConvStrategy.inGroups_eq_depthwise_iff.2 h)
  · rw [ConvStrategy.inGroups_eq_inGroups_iff, hzero]
    cases transposed <;> simp

open Session in
/-- a transposed convolution from two channels to four, in two groups: the kernel is depthwise, since the input of the
operation has two channels, although the tensor in its input role has four -/
theorem depthwise_by_operation_input_of_two :
    let history : List Step := [.create ⟨"x", .float, [1, 2, 3], none⟩, .create ⟨"w", .float, [2, 2, 3], none⟩,
      .create ⟨"y", .float, [1, 4, 3], none⟩]
    let op := ((((Operation.named "deconv" .float).withInput "input" (.identifier "x")).withInput "filter"
      (.identifier "w")).withOutput "output" (.identifier "y")).withAttribute "groups" (.integer 2)
    let s := (fresh none).after history
    op.name = convName true ∧ op.attribute? "groups" = some (.integer 2) ∧ (2 : Int64) ≠ 1 ∧
      fault? (performNamed op s) = none ∧ ∃ output filter bias : BufferRef, ∃ target ls strategy geometry,
        s.Names (op.output? "output") output ∧ (reached (performNamed op s)).engine.log.toList =
          s.logAfter ls (.conv strategy true output.id filter.id bias.id target geometry) ∧
        strategy = .depthwise ∧ strategy ≠ .inGroups 2 (output.shape.getD 1 0) := by
  intro history op s
  have hname : op.name = convName true := by decide +kernel
  have hgroups : op.attribute? "groups" = some (.integer 2) := by decide +kernel
  have hok : fault? (performNamed op s) = none := by decide +kernel
  have hx : s.Names (op.input? "input") ⟨0, .float, [1, 2, 3]⟩ := ⟨"x", by decide +kernel, by decide +kernel⟩
  have hy : s.Names (op.output? "output") ⟨2, .float, [1, 4, 3]⟩ := ⟨"y", by decide +kernel, by decide +kernel⟩
  obtain ⟨input, filter, output, bias, ls, strategy, geometry, hinput, -, houtput, hlog, hdepthwise, -, halike⟩ :=
    depthwise_by_operation_input none history hname hgroups (by decide) hok
  obtain rfl := hinput.unique hx
  obtain rfl := houtput.unique hy
  exact ⟨hname, hgroups, by decide, hok, _, filter, bias, _, ls, strategy, geometry, houtput, hlog,
    hdepthwise.2 (by decide), fun h => absurd (halike.1 h) (by decide)⟩

open Session in
/-- a transposed convolution from four channels to two, in two groups: the tensor in the input role of the kernel has a
group for each of its channels, and still the kernel is not depthwise -/
theorem depthwise_kernel_is_grouped :
    let s := (fresh none).after [.create ⟨"x", .float, [1, 4, 3], none⟩, .create ⟨"w", .float, [4, 1, 3], none⟩,
      .create ⟨"y", .float, [1, 2, 3], none⟩]
    let op := ((((Operation.named "deconv" .float).withInput "input" (.identifier "x")).withInput "filter"
      (.identifier "w")).withOutput "output" (.identifier "y")).withAttribute "groups" (.integer 2)
    fault? (performNamed op s) = none ∧ s.Names (op.output? "output") ⟨2, .float, [1, 2, 3]⟩ ∧
      (reached (performNamed op s)).engine.log.toList = s.logAfter [.float .zero]
        (.conv (.grouped 2) true 2 1 3 0 ⟨[(1, 1)], [1], [1]⟩) := by
  intro s op
  have hok : fault? (performNamed op s) = none := by decide +kernel
  have hy : s.Names (op.output? "output") ⟨2, .float, [1, 2, 3]⟩ := ⟨"y", by decide +kernel, by decide +kernel⟩
  have hlog : (reached (performNamed op s)).engine.log.toList = s.logAfter [.float .zero]
      (.conv (.grouped 2) true 2 1 3 0 ⟨[(1, 1)], [1], [1]⟩) := by decide +kernel
  exact ⟨hok, hy, hlog⟩

end TensorGraph
