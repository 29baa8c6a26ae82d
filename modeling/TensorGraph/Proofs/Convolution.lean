/-
Convolution on a recorder: when it goes well, and what it asks of the engine.

Model: `Session.FindsConv` says where the operands of a convolution are: input, filter and output are names of bound
tensors, and the bias is one too, or a literal, or a zero since there is none. `Operation.DescribesConv` is what its
attributes have to say about tensors of the given shapes.

Main result: `conv_as_described`, a convolution goes well exactly if it is described, and then it is the one described.
An operation of the open kind is refused, whatever it describes (`generic_conv_refused`).
-/
import TensorGraph.Proofs.Execution
import TensorGraph.Proofs.Windows

namespace TensorGraph

/-! ## Model -/

/-- what an operation on tensors of the given shapes has to look like to be a convolution that is carried out -/
structure Operation.DescribesConv (op : Operation) (transposed : Bool) (input filter output : List Nat)
    (strategy : ConvStrategy) (geometry : ConvGeometry) : Prop extends
    op.GivesConv transposed input filter output strategy geometry where
  kind : op.dtype.isConcrete = true
  border : op.attribute? "border" = none ∨ op.attribute? "border" = some (.string "constant")

/-- a convolution only knows constant borders -/
theorem Operator.precheck_conv_eq_ok_iff {transposed : Bool} {op : Operation} :
    (Operator.conv transposed).precheck op = .ok () ↔
      op.attribute? "border" = none ∨ op.attribute? "border" = some (.string "constant") := by
  simp [Operator.precheck, Operation.checkBorder_eq_ok_iff]

namespace Session

/-- the number of the buffer that a bias is in, and the literals that are stored for it -/
inductive FindsBias (s : Session Recorder BufferRef) (op : Operation) : Nat → List Literal → Prop
  | missing (h : op.input? "bias" = none) : FindsBias s op s.engine.buffers.size [.float .zero]
  | literal {v : Value} {l : Literal} (h : op.input? "bias" = some v) (hl : v.literal? = some l) :
    FindsBias s op s.engine.buffers.size [l]
  | bound {t : BufferRef} (h : s.Names (op.input? "bias") t) : FindsBias s op t.id []

/-- the tensors of a convolution; only the bias may be a literal -/
structure FindsConv (s : Session Recorder BufferRef) (op : Operation) (input filter output : BufferRef) (bias : Nat)
    (ls : List Literal) : Prop where
  input : s.Names (op.input? "input") input
  filter : s.Names (op.input? "filter") filter
  output : s.Names (op.output? "output") output
  bias : s.FindsBias op bias ls

variable {s s' : Session Recorder BufferRef} {op : Operation} {input filter output : BufferRef} {bias : Nat}
  {ls : List Literal}

/-! ## Operands -/

theorem FindsBias.fillSlot (h : s.FindsBias op bias ls) : ∃ x,
    (Lookup.supply s.bindings.find?).fillSlot op .bias [] = .ok x ls ∧ (x.ref s.engine.buffers.size).id = bias := by
  change ∃ x, (Lookup.supply s.bindings.find?).resolve op "bias" ((op.input? "bias").getD (.scalar .zero)) [] =
    .ok x ls ∧ _
  cases h with
  | missing h =>
    rw [h]
    exact ⟨.literal 0 (.float .zero), Lookup.resolve_of_literal rfl, rfl⟩
  | literal h hl =>
    rw [h]
    exact ⟨_, Lookup.resolve_of_literal hl, rfl⟩
  | bound h =>
    obtain ⟨name, hv, ht⟩ := h
    rw [hv]
    exact ⟨_, Lookup.resolve_of_bound ht, rfl⟩

theorem FindsConv.fillSlots (h : s.FindsConv op input filter output bias ls) (transposed : Bool) : ∃ x,
    (Lookup.supply s.bindings.find?).fillSlots op (Operator.conv transposed).signature [] =
      .ok (.bound input, .bound filter, x, .bound output, ()) ls ∧ (x.ref s.engine.buffers.size).id = bias := by
  obtain ⟨x, hx, hid⟩ := h.bias.fillSlot
  refine ⟨x, ?_, hid⟩
  exact Lookup.fillSlots_cons h.input.fillSlot_input (Lookup.fillSlots_cons h.filter.fillSlot_input
    (Lookup.fillSlots_cons hx (Lookup.fillSlots_cons h.output.fillSlot_output rfl)))

/-! ## Convolutions -/

/-- a convolution goes well if it is described, and leaves what its request does -/
theorem performNamed_conv_eq_ok_iff {transposed : Bool} {name : String} (hs : s.scratch = [])
    (hfail : s.engine.failOn = none) (hname : Operator.named? op.name = some ⟨name, .conv transposed⟩)
    (h : s.FindsConv op input filter output bias ls) : ∃ t : BufferRef, t.id = bias ∧ ∀ s',
    performNamed op s = .ok () s' ↔ ∃ strategy geometry,
      op.DescribesConv transposed input.shape filter.shape output.shape strategy geometry ∧
        s' = s.performed ls (.compute strategy.request (.conv strategy transposed
          (if transposed then output else input) filter t (if transposed then input else output) geometry)) := by
  obtain ⟨x, hfound, hid⟩ := h.fillSlots transposed
  refine ⟨x.ref s.engine.buffers.size, hid, fun s' => ?_⟩
  rw [performNamed_eq_ok_iff hs hfail hname rfl hfound, Operator.precheck_conv_eq_ok_iff]
  constructor
  · rintro ⟨hkind, hborder, i, hplan, rfl⟩
    obtain ⟨strategy, geometry, hgives, rfl⟩ := Operation.planConv_eq_ok_iff.1 hplan
    refine ⟨strategy, geometry, ⟨hgives, hkind, hborder⟩, ?_⟩
    cases transposed <;> rfl
  · rintro ⟨strategy, geometry, ⟨hgives, hkind, hborder⟩, rfl⟩
    refine ⟨hkind, hborder, _, Operation.planConv_eq_ok_iff.2 ⟨strategy, geometry, hgives, rfl⟩, ?_⟩
    cases transposed <;> rfl

end Session

/-! ## Main result -/

open Session in
/-- **Convolutions are what they describe.** Take any session on a recorder without failures, whatever its history, and
a convolution or a transposed one whose operands are found. It goes well exactly if its attributes describe a
convolution of tensors of these shapes.

Then a bias that is no tensor is stored in a new buffer, the one kernel is logged, and the new buffer is released. The
kernel has the strategy and the geometry described. A transposed convolution goes from the output of the operation to
its input. -/
theorem conv_as_described (history : List Step) {op : Operation} {transposed : Bool}
    (hname : (op.name, transposed) ∈ [("conv", false), ("deconv", true)]) {input filter output : BufferRef} {bias : Nat}
    {ls : List Literal} (h : ((fresh none).after history).FindsConv op input filter output bias ls) :
    let s := (fresh none).after history
    let first := s.engine.buffers.size
    let source := if transposed then output else input
    let target := if transposed then input else output
    ((∃ s', performNamed op s = .ok () s') ↔ ∃ strategy geometry,
      op.DescribesConv transposed input.shape filter.shape output.shape strategy geometry) ∧
    ∀ strategy geometry, op.DescribesConv transposed input.shape filter.shape output.shape strategy geometry →
      (reached (performNamed op s)).engine.log.toList = s.engine.log.toList ++ literalCalls first ls ++
        [.compute (.conv strategy transposed source.id filter.id bias target.id geometry)] ++
        (List.range' first ls.length).map Call.release := by
  intro s first source target
  obtain ⟨hcoupled, hscratch⟩ := coupled_after none history
  have hnamed : Operator.named? op.name = some ⟨op.name, .conv transposed⟩ := by
    simp only [List.mem_cons, Prod.mk.injEq, List.not_mem_nil, or_false] at hname
    rcases hname with ⟨hop, rfl⟩ | ⟨hop, rfl⟩ <;> rw [hop] <;> decide +kernel
  obtain ⟨t, rfl, hiff⟩ := performNamed_conv_eq_ok_iff hscratch hcoupled.failOn_eq hnamed h
  exact performNamed_described hiff

open Session in
/-- a transposed convolution with as many groups as channels, strides, a literal bias and padding that is not given -/
theorem conv_as_described_transposed :
    let history : List Step := [.create ⟨"x", .float, [1, 2, 3], none⟩, .create ⟨"w", .float, [2, 1, 2], none⟩,
      .create ⟨"y", .float, [1, 2, 4], none⟩]
    let op := ((((((Operation.named "deconv" .float).withInput "input" (.identifier "x")).withInput "filter"
      (.identifier "w")).withInput "bias" (.integer 5)).withOutput "output" (.identifier "y")).withAttribute "stride"
      (.ofIntegers [2])).withAttribute "groups" (.integer 2)
    (op.name, true) ∈ [("conv", false), ("deconv", true)] ∧
      ((fresh none).after history).FindsConv op ⟨0, .float, [1, 2, 3]⟩ ⟨1, .float, [2, 1, 2]⟩ ⟨2, .float, [1, 2, 4]⟩ 3
        [.integer 5] ∧
      op.DescribesConv true [1, 2, 3] [2, 1, 2] [1, 2, 4] .depthwise ⟨[(1, 1)], [2], [1]⟩ ∧
      (reached (performNamed op ((fresh none).after history))).engine.log.toList =
        ((fresh none).after history).engine.log.toList ++ [.allocate 3 .integer [], .fill 3,
          .compute (.conv .depthwise true 2 1 3 0 ⟨[(1, 1)], [2], [1]⟩), .release 3] := by
  intro history op
  have hname : (op.name, true) ∈ [("conv", false), ("deconv", true)] := by decide
  have hfinds : ((fresh none).after history).FindsConv op ⟨0, .float, [1, 2, 3]⟩ ⟨1, .float, [2, 1, 2]⟩
      ⟨2, .float, [1, 2, 4]⟩ 3 [.integer 5] :=
    ⟨⟨"x", by decide +kernel, by decide +kernel⟩, ⟨"w", by decide +kernel, by decide +kernel⟩,
      ⟨"y", by decide +kernel, by decide +kernel⟩, .literal (v := .integer 5) (by decide +kernel) rfl⟩
  have hdescribes : op.DescribesConv true [1, 2, 3] [2, 1, 2] [1, 2, 4] .depthwise ⟨[(1, 1)], [2], [1]⟩ := by
    have hlacks : op.Lacks "dilation" ∧ op.Lacks "padding" := ⟨Or.inl (by decide +kernel), Or.inl (by decide +kernel)⟩
    have hstride : op.ListsSizes "stride" [2] := ⟨[2], by decide +kernel, by simp, rfl⟩
    exact {
      rank := by decide
      window := ⟨.given hstride rfl (by decide), .missing hlacks.1, .missing hlacks.2 (by decide)⟩
      strategy := .channels (n := 2) (by decide +kernel) (Or.inr rfl) (by decide)
      kind := rfl
      border := Or.inl (by decide +kernel) }
  exact ⟨hname, hfinds, hdescribes, (conv_as_described history hname hfinds).2 _ _ hdescribes⟩

open Session in
/-- a convolution that is described but for its kind, which is open: it is refused -/
theorem generic_conv_refused :
    let history : List Step := [.create ⟨"x", .float, [1, 1, 3], none⟩, .create ⟨"w", .float, [1, 1, 3], none⟩,
      .create ⟨"y", .float, [1, 1, 3], none⟩]
    let op := (((Operation.named "conv" .generic).withInput "input" (.identifier "x")).withInput "filter"
      (.identifier "w")).withOutput "output" (.identifier "y")
    ((fresh none).after history).FindsConv op ⟨0, .float, [1, 1, 3]⟩ ⟨1, .float, [1, 1, 3]⟩ ⟨2, .float, [1, 1, 3]⟩ 3
        [.float .zero] ∧
      op.attribute? "border" = none ∧ op.GivesConv false [1, 1, 3] [1, 1, 3] [1, 1, 3] .direct ⟨[(1, 1)], [1], [1]⟩ ∧
      fault? (performNamed op ((fresh none).after history)) = some (.unsupportedKind "conv" .generic) ∧
      ¬ ∃ s', performNamed op ((fresh none).after history) = .ok () s' := by
  intro history op
  have hlacks : ∀ key, op.Lacks key := fun key => Or.inl rfl
  have hfault : fault? (performNamed op ((fresh none).after history)) = some (.unsupportedKind "conv" .generic) := by
    decide +kernel
  refine ⟨?_, by decide +kernel, ?_, hfault, ?_⟩
  · exact ⟨⟨"x", by decide +kernel, by decide +kernel⟩, ⟨"w", by decide +kernel, by decide +kernel⟩,
      ⟨"y", by decide +kernel, by decide +kernel⟩, .missing (by decide +kernel)⟩
  · exact {
      rank := by decide
      window := ⟨.missing (hlacks _), .missing (hlacks _), .missing (hlacks _) (by decide)⟩
      strategy := .missing (by decide +kernel) }
  · rintro ⟨s', hs'⟩
    rw [hs'] at hfault
    cases hfault

end TensorGraph
