/-
Pooling on a recorder: when it goes well, and what it asks of the engine.

Model: `Operation.DescribesPooling` is what the attributes of a pooling operation have to say about tensors of the given
shapes. Its operands are the names of two bound tensors, so nothing is stored and nothing released.

Main result: `pooling_as_described`, pooling goes well exactly if it is described, and then it is the one described. An
operation of the open kind is refused, whatever it describes (`generic_pooling_refused`).
-/
import TensorGraph.Proofs.Execution
import TensorGraph.Proofs.Windows

namespace TensorGraph

/-! ## Model -/

/-- what an operation on tensors of the given shapes has to look like to be pooling that is carried out -/
structure Operation.DescribesPooling (op : Operation) (family : PoolFamily) (transposed : Bool)
    (input output : List Nat) (pool : PoolOp) (geometry : PoolGeometry) : Prop extends
    op.GivesPooling family transposed input output pool geometry where
  kind : op.dtype.isConcrete = true
  border : op.attribute? "border" = none ∨ op.attribute? "border" = some (.string "constant") ∨
    op.attribute? "border" = some (.string "ignore")

/-- the operations that pool, with what they do to a window -/
def poolings : List (String × PoolFamily × Bool) :=
  [("box", .box, false), ("debox", .box, true), ("avg_pool", .avg, false), ("max_pool", .max, false)]

/-- each is known under its name -/
theorem named?_of_mem_poolings {name : String} {family : PoolFamily} {transposed : Bool}
    (h : (name, family, transposed) ∈ poolings) : Operator.named? name = some ⟨name, .pool family transposed⟩ := by
  have hall : ∀ e ∈ poolings, Operator.named? e.1 = some ⟨e.1, .pool e.2.1 e.2.2⟩ := by decide +kernel
  exact hall _ h

namespace Session

variable {s : Session Recorder BufferRef} {op : Operation} {input output : BufferRef}

/-! ## Pooling -/

/-- pooling goes well if it is described, and leaves what its request does -/
theorem performNamed_pool_eq_ok_iff {family : PoolFamily} {transposed : Bool} (hs : s.scratch = [])
    (hfail : s.engine.failOn = none) (hname : (op.name, family, transposed) ∈ poolings)
    (hinput : s.Names (op.input? "input") input) (houtput : s.Names (op.output? "output") output)
    (s' : Session Recorder BufferRef) :
    performNamed op s = .ok () s' ↔ ∃ pool geometry,
      op.DescribesPooling family transposed input.shape output.shape pool geometry ∧
        s' = s.performed [] (.compute .pool (.pool pool transposed (if transposed then output else input)
          (if transposed then input else output) geometry)) := by
  have hborder : (Operator.pool family transposed).precheck op = .ok () ↔ op.attribute? "border" = none ∨
      op.attribute? "border" = some (.string "constant") ∨ op.attribute? "border" = some (.string "ignore") := by
    simp [Operator.precheck, Operation.checkBorder_eq_ok_iff]
  rw [performNamed_eq_ok_iff hs hfail (named?_of_mem_poolings hname) rfl (hinput.fillSlots houtput), hborder]
  constructor
  · rintro ⟨hkind, hborder, i, hplan, rfl⟩
    obtain ⟨pool, geometry, hgives, rfl⟩ := Operation.planPool_eq_ok_iff.1 hplan
    refine ⟨pool, geometry, ⟨hgives, hkind, hborder⟩, ?_⟩
    cases transposed <;> rfl
  · rintro ⟨pool, geometry, ⟨hgives, hkind, hborder⟩, rfl⟩
    refine ⟨hkind, hborder, _, Operation.planPool_eq_ok_iff.2 ⟨pool, geometry, hgives, rfl⟩, ?_⟩
    cases transposed <;> rfl

end Session

/-! ## Main result -/

open Session in
/-- **Pooling is what it describes.** Take any session on a recorder without failures, whatever its history, and a
pooling operation whose operands are names of bound tensors. It goes well exactly if its attributes describe pooling of
tensors of these shapes. Then it does nothing but log the one kernel, with the window described; transposed pooling goes
from the output of the operation to its input. -/
theorem pooling_as_described (history : List Step) {op : Operation} {family : PoolFamily} {transposed : Bool}
    (hname : (op.name, family, transposed) ∈ poolings) {input output : BufferRef}
    (hinput : ((fresh none).after history).Names (op.input? "input") input)
    (houtput : ((fresh none).after history).Names (op.output? "output") output) :
    let s := (fresh none).after history
    let source := if transposed then output else input
    let target := if transposed then input else output
    ((∃ s', performNamed op s = .ok () s') ↔ ∃ pool geometry,
      op.DescribesPooling family transposed input.shape output.shape pool geometry) ∧
    ∀ pool geometry, op.DescribesPooling family transposed input.shape output.shape pool geometry →
      (reached (performNamed op s)).engine.log.toList =
        s.engine.log.toList ++ [.compute (.pool pool transposed source.id target.id geometry)] := by
  intro s source target
  obtain ⟨hcoupled, hscratch⟩ := coupled_after none history
  have hiff := performNamed_pool_eq_ok_iff hscratch hcoupled.failOn_eq hname hinput houtput
  obtain ⟨hok, hlog⟩ := performNamed_described hiff
  -- there is no literal, so nothing is stored before the kernel, and nothing released after it
  refine ⟨hok, fun pool geometry hdescribes => ?_⟩
  have h := hlog pool geometry hdescribes
  rwa [literalCalls, List.append_nil, List.length_nil, List.range'_zero, List.map_nil, List.append_nil] at h

open Session in
/-- transposed averaging with an ignored border, padding that is given, and dilations that are an empty list -/
theorem pooling_as_described_transposed :
    let history : List Step := [.create ⟨"x", .float, [3, 1], none⟩, .create ⟨"y", .float, [6, 1], none⟩]
    let op := (((((((Operation.named "debox" .float).withInput "input" (.identifier "x")).withOutput "output"
      (.identifier "y")).withAttribute "size" (.ofIntegers [2, 1])).withAttribute "stride"
      (.ofIntegers [2, 1])).withAttribute "dilation" (.array [])).withAttribute "padding"
      (.ofPairs [(0, 1), (0, 0)])).withAttribute "border" (.string "ignore")
    let op := op.withAttribute "normalize" (.logical true)
    (op.name, PoolFamily.box, true) ∈ poolings ∧
      ((fresh none).after history).Names (op.input? "input") ⟨0, .float, [3, 1]⟩ ∧
      ((fresh none).after history).Names (op.output? "output") ⟨1, .float, [6, 1]⟩ ∧
      op.DescribesPooling .box true [3, 1] [6, 1] .avg ⟨[2, 1], [(0, 1), (0, 0)], [2, 1], [1, 1], false⟩ ∧
      (reached (performNamed op ((fresh none).after history))).engine.log.toList =
        ((fresh none).after history).engine.log.toList ++
          [.compute (.pool .avg true 1 0 ⟨[2, 1], [(0, 1), (0, 0)], [2, 1], [1, 1], false⟩)] := by
  intro history op' op
  have hname : (op.name, PoolFamily.box, true) ∈ poolings := by decide
  have hinput : ((fresh none).after history).Names (op.input? "input") ⟨0, .float, [3, 1]⟩ :=
    ⟨"x", by decide +kernel, by decide +kernel⟩
  have houtput : ((fresh none).after history).Names (op.output? "output") ⟨1, .float, [6, 1]⟩ :=
    ⟨"y", by decide +kernel, by decide +kernel⟩
  have hdescribes : op.DescribesPooling .box true [3, 1] [6, 1] .avg
      ⟨[2, 1], [(0, 1), (0, 0)], [2, 1], [1, 1], false⟩ := by
    have hsize : op.ListsSizes "size" [2, 1] := ⟨[2, 1], by decide +kernel, by simp, rfl⟩
    have hstride : op.ListsSizes "stride" [2, 1] := ⟨[2, 1], by decide +kernel, by simp, rfl⟩
    have hpadding : op.ListsPairs "padding" [(0, 1), (0, 0)] :=
      ⟨[(0, 1), (0, 0)], by decide +kernel, by simp, rfl⟩
    exact {
      rank := by decide
      size := ⟨hsize, rfl⟩
      window := ⟨.given hstride rfl (by decide), .missing (Or.inr (by decide +kernel)), .given hpadding rfl⟩
      pool := .normalize (b := true) (by decide +kernel)
      includeBorder := by decide +kernel
      kind := rfl
      border := Or.inr (Or.inr (by decide +kernel)) }
  exact ⟨hname, hinput, houtput, hdescribes, (pooling_as_described history hname hinput houtput).2 _ _ hdescribes⟩

open Session in
/-- pooling that is described but for its kind, which is open: it is refused -/
theorem generic_pooling_refused :
    let history : List Step := [.create ⟨"x", .float, [3], none⟩, .create ⟨"y", .float, [3], none⟩]
    let op := (((Operation.named "max_pool" .generic).withInput "input" (.identifier "x")).withOutput "output"
      (.identifier "y")).withAttribute "size" (.ofIntegers [3])
    ((fresh none).after history).Names (op.input? "input") ⟨0, .float, [3]⟩ ∧
      ((fresh none).after history).Names (op.output? "output") ⟨1, .float, [3]⟩ ∧
      op.attribute? "border" = none ∧ op.GivesPooling .max false [3] [3] .max ⟨[3], [(1, 1)], [1], [1], true⟩ ∧
      fault? (performNamed op ((fresh none).after history)) = some (.unsupportedKind "max_pool" .generic) ∧
      ¬ ∃ s', performNamed op ((fresh none).after history) = .ok () s' := by
  intro history op
  have hfault : fault? (performNamed op ((fresh none).after history)) =
      some (.unsupportedKind "max_pool" .generic) := by
    decide +kernel
  refine ⟨⟨"x", by decide +kernel, by decide +kernel⟩, ⟨"y", by decide +kernel, by decide +kernel⟩, by decide +kernel,
    ?_, hfault, ?_⟩
  · have hsize : op.ListsSizes "size" [3] := ⟨[3], by decide +kernel, by simp, rfl⟩
    exact {
      rank := by decide
      size := ⟨hsize, rfl⟩
      window := ⟨.missing (Or.inl (by decide +kernel)), .missing (Or.inl (by decide +kernel)),
        .missing (Or.inl (by decide +kernel)) (by decide)⟩
      pool := .max
      includeBorder := by decide +kernel }
  · rintro ⟨s', hs'⟩
    rw [hs'] at hfault
    cases hfault

end TensorGraph
