/-
Which numbers of a run are words.

Model: sizes are words, and a rank or an extent is read as a signed word before an axis or a start is counted from the
end. `FitsSigned` says that this reading is exact and that no sum leaves the range; a shape `FitsWords` if so do its
rank and its extents and if its elements are counted in words. Validation bounds ranks and payloads, but neither the
extents of a tensor nor how many elements it has. The reach of a window is the one number that is checked: an
operation `Overreaches` if it is in order up to its padding and if its window reaches over too many elements.

Main results:
- `fitsSigned_iff`, `fitsWords_of_payload`: what fits, and that tensors with elements and a payload do;
- `overreaching_is_malformed`: a reach that is no word ends a run, in words of its own;
- `words_of_valid_graph`.
-/
import TensorGraph.Proofs.Agreement
import TensorGraph.Proofs.Offender
import TensorGraph.Proofs.Shapes
import TensorGraph.Proofs.Slicing
import TensorGraph.Proofs.Transposition

namespace TensorGraph

/-! ## Model -/

/-- a size that is itself when read as a signed word, and that can be added to every negative signed word -/
structure FitsSigned (size : Nat) : Prop where
  same : asSigned size = size
  sums : ∀ n : Int64, n.toInt < 0 → -2 ^ 63 ≤ n.toInt + asSigned size ∧ n.toInt + asSigned size < 2 ^ 63

/-- a shape whose elements can be counted axis by axis, and whose rank and extents can be read as signed words -/
structure FitsWords (shape : List Nat) : Prop where
  /-- no product of leading extents is too large -/
  volumes : ∀ axes, volume (shape.take axes) < wordSize
  rank : FitsSigned shape.length
  extents : ∀ extent ∈ shape, FitsSigned extent

/-- what the padding of an operation is computed for, if it is not given: a source, a target and a window, all of them
without axes that are not padded -/
inductive Operator.PadsFor {τ : Type} [Handle τ] (op : Operation) :
    (o : Operator) → Operands τ o.signature → (source target window : List Nat) → Prop
  | conv {transposed : Bool} {input filter bias output : τ} (hrank : 3 ≤ Handle.rank input ∧ Handle.rank input ≤ 5)
    (hranks : Handle.rank filter = Handle.rank input ∧ Handle.rank output = Handle.rank input) :
    PadsFor op (.conv transposed) (input, filter, bias, output, ())
      ((Handle.shape (if transposed then output else input)).drop 2)
      ((Handle.shape (if transposed then input else output)).drop 2) ((Handle.shape filter).drop 2)
  | pool {family : PoolFamily} {transposed : Bool} {input output : τ} {size : List Nat}
    (hrank : 1 ≤ Handle.rank input ∧ Handle.rank input ≤ 5) (hranks : Handle.rank output = Handle.rank input)
    (hsize : op.ListsSizes "size" size) (hlength : size.length = Handle.rank input) :
    PadsFor op (.pool family transposed) (input, output, ()) (Handle.shape (if transposed then output else input))
      (Handle.shape (if transposed then input else output)) size

/-- an operation that is in order up to its padding, which is not given, and whose window reaches over too many elements
of some axis -/
inductive Session.Overreaches (s : Session Recorder BufferRef) (op : Operation) (stride dilation : List Nat) : Prop
  | mk {r : Registration} {xs : Operands (Operand BufferRef) r.operator.signature} {ls : List Literal}
    {source target window : List Nat} {axis : Nat} (hnamed : Operator.named? op.name = some r)
    (hconcrete : op.dtype ≠ .generic) (hborder : r.operator.precheck op = .ok ())
    (hfound : (Lookup.supply s.bindings.find?).fillSlots op r.operator.signature [] = .ok xs ls)
    (hpads : r.operator.PadsFor op xs source target window) (hstride : op.GivesSteps "stride" source.length stride)
    (hdilation : op.GivesSteps "dilation" source.length dilation) (hpadding : op.Lacks "padding")
    (haxis : axis < source.length) (hreach : 2 ^ 64 ≤ windowReach target window stride dilation axis)

/-- what such an operation is told -/
def Operation.overflow (op : Operation) (stride dilation : List Nat) : RunError :=
  .malformedOperand op.name "stride"
    s!"stride {Text.sizes stride} with dilation {Text.sizes dilation} overflows the window extent"

/-! ## Numbers -/

/-- the lower half of the words -/
theorem fitsSigned_iff {size : Nat} : FitsSigned size ↔ size < 2 ^ 63 := by
  constructor
  · intro h
    have hsame := h.same
    rw [asSigned, show wordSize = 2 ^ 64 from rfl, Int.bmod_def] at hsame
    omega
  · intro h
    have hsame := asSigned_of_lt h
    refine ⟨hsame, fun n hn => ?_⟩
    have hle := n.le_toInt
    rw [hsame]
    omega

theorem volume_eq_prod (shape : List Nat) : volume shape = shape.prod := rfl

theorem fitsWords_nil : FitsWords [] := ⟨fun axes => by rw [List.take_nil]; decide, fitsSigned_iff.2 (by decide), nofun⟩

/-- a shape with elements, not too many in all -/
theorem fitsWords_of_volume {shape : List Nat} (hrank : shape.length < 2 ^ 63) (hzero : 0 ∉ shape)
    (hvolume : volume shape < 2 ^ 63) : FitsWords shape := by
  have hpos : 0 < volume shape := by
    rw [volume_eq_prod]
    exact Nat.pos_of_ne_zero fun h => hzero (List.prod_eq_zero_iff.1 h)
  refine ⟨fun axes => ?_, fitsSigned_iff.2 hrank, fun extent he => fitsSigned_iff.2 ?_⟩
  · have hdvd : volume (shape.take axes) ∣ volume shape :=
      ⟨(shape.drop axes).prod, (List.prod_take_mul_prod_drop shape axes).symm⟩
    have hle := Nat.le_of_dvd hpos hdvd
    have hword : wordSize = 2 ^ 64 := rfl
    omega
  · exact (Nat.le_of_dvd hpos (List.dvd_prod he)).trans_lt hvolume

/-- a shape whose number of elements is a word, and was counted as one -/
theorem fitsWords_of_count {shape : List Nat} (hrank : shape.length < 2 ^ 63) (hzero : 0 ∉ shape) {count : Nat}
    (hcount : count = volume shape % wordSize) (hlength : count < 2 ^ 63) (hvolume : volume shape < wordSize) :
    FitsWords shape := by
  rw [Nat.mod_eq_of_lt hvolume] at hcount
  exact fitsWords_of_volume hrank hzero (hcount ▸ hlength)

/-- a sound tensor with elements and a payload, if its elements can be counted -/
theorem fitsWords_of_payload {t : Tensor} (h : t.Sound) {p : Payload} (hp : t.data = some p)
    (hlength : p.length < 2 ^ 63) (hvolume : volume t.shape < wordSize) (hzero : 0 ∉ t.shape) : FitsWords t.shape := by
  have hrank : t.shape.length ≤ 8 := h.rank
  have hcount : p.length = volume t.shape := (h.payload p hp).2
  exact fitsWords_of_count (by omega) hzero (hcount.trans (Nat.mod_eq_of_lt hvolume).symm) hlength hvolume

/-! ## Windows that reach too far -/

namespace Operation

variable {op : Operation} {source target window stride dilation : List Nat} {axis : Nat}

theorem geometry_of_overreach (htarget : target.length = source.length) (hwindow : window.length = source.length)
    (hstride : op.GivesSteps "stride" source.length stride) (hdilation : op.GivesSteps "dilation" source.length dilation)
    (hpadding : op.Lacks "padding") (haxis : axis < source.length)
    (hreach : 2 ^ 64 ≤ windowReach target window stride dilation axis) :
    op.geometry source target window = .error (op.overflow stride dilation) := by
  have hnone : samePaddings source target window stride dilation = none := by
    cases hsame : samePaddings source target window stride dilation with
    | none => rfl
    | some l =>
      have hall := ((samePaddings_eq_some_iff htarget hwindow hstride.length_eq hdilation.length_eq).1 hsame).1
      exact absurd (hall axis haxis) (Nat.not_lt.2 hreach)
  have hmissing : op.padding "padding" = .ok none := padding_eq_ok_iff.2 (Or.inl ⟨hpadding, rfl⟩)
  have hsame : op.paddingOrSame source target window stride dilation = .error (op.overflow stride dilation) := by
    rw [paddingOrSame, except_bind_of_ok hmissing]
    dsimp only
    rw [hnone]
    rfl
  obtain ⟨strides, hstrides, rfl, hscheck⟩ := givesSteps_iff.1 hstride
  obtain ⟨dilations, hdilations, rfl, hdcheck⟩ := givesSteps_iff.1 hdilation
  rw [geometry, except_bind_of_ok hstrides, except_bind_of_ok hdilations]
  dsimp only
  rw [except_bind_of_ok hscheck, except_bind_of_ok hdcheck, hsame]
  rfl

section

variable {τ : Type} [Handle τ]

/-- an operation that is in order up to its padding, which is not given, fails over a reach that is no word -/
theorem plan_of_overreach {o : Operator} {xs : Operands τ o.signature} (hpads : o.PadsFor op xs source target window)
    (hstride : op.GivesSteps "stride" source.length stride) (hdilation : op.GivesSteps "dilation" source.length dilation)
    (hpadding : op.Lacks "padding") (haxis : axis < source.length)
    (hreach : 2 ^ 64 ≤ windowReach target window stride dilation axis) :
    o.plan op xs = .error (op.overflow stride dilation) := by
  have hgeometry (htarget : target.length = source.length) (hwindow : window.length = source.length) :
      op.geometry source target window = .error (op.overflow stride dilation) :=
    geometry_of_overreach htarget hwindow hstride hdilation hpadding haxis hreach
  cases hpads with
  | @conv transposed input filter bias output hrank hranks =>
    have hcheck : op.checkConvRanks (Handle.rank input) (Handle.rank filter) (Handle.rank output) = .ok () :=
      checkConvRanks_eq_ok_iff.2 ⟨hrank.1, hrank.2, hranks⟩
    have hfilter : (Handle.shape filter).length = (Handle.shape input).length := hranks.1
    have houtput : (Handle.shape output).length = (Handle.shape input).length := hranks.2
    change op.planConv transposed input filter bias output = _
    rw [planConv, except_bind_of_ok hcheck]
    cases transposed <;>
      exact except_bind_of_error (hgeometry (by simp [houtput]) (by simp [hfilter, houtput])) _
  | @pool family transposed input output _ hrank hranks hsize hlength =>
    have hinput : op.checkRank (Handle.rank input) maxPoolRank = .ok () := checkRank_eq_ok_iff.2 hrank.2
    have houtput : op.checkRank (Handle.rank output) maxPoolRank = .ok () :=
      checkRank_eq_ok_iff.2 (hranks.trans_le hrank.2)
    have hlengths : (Handle.shape output).length = (Handle.shape input).length := hranks
    change op.planPool family transposed input output = _
    rw [planPool, except_bind_of_ok hinput, except_bind_of_ok houtput]
    cases transposed with
    | false =>
      have hwindow : op.windowSize (Handle.rank input) (Handle.rank output) = .ok window :=
        windowSize_eq_ok_iff.2 ⟨hrank.1, hranks, hsize, hlength⟩
      exact (except_bind_of_ok hwindow _).trans (except_bind_of_error (hgeometry hlengths hlength) _)
    | true =>
      have hwindow : op.windowSize (Handle.rank output) (Handle.rank input) = .ok window :=
        windowSize_eq_ok_iff.2 ⟨hrank.1.trans_eq hranks.symm, hranks.symm, hsize, hlength.trans hranks.symm⟩
      exact (except_bind_of_ok hwindow _).trans
        (except_bind_of_error (hgeometry hlengths.symm (hlength.trans hranks.symm)) _)

end

end Operation

/-! ## Runs -/

namespace Session

variable {failOn : Option String} {s : Session Recorder BufferRef} {o : Operator} {op : Operation}

/-- an operation that comes to no request computes nothing, and its fault is why, unless storing its literals failed -/
theorem fault_of_undecided {e : RunError} (hconcrete : op.dtype ≠ .generic)
    (h : (o.decision s.bindings.find? op).outcome = .error e) :
    ∃ e' s', perform o op s = .error e' s' ∧
      (e' = e ∨ ∃ p, s.engine.Refuses p ∧ e' = .engine p (Fault.injected p).message) ∧ Quiet s s' := by
  have hundecided : ∀ i, (o.decision s.bindings.find? op).outcome ≠ .ok i := fun i hi => nomatch h.symm.trans hi
  have hquiet := (quiet_of_undecided hundecided).2
  have hrun : perform o op s = both (dispatch o op) releaseScratch s := by
    rw [perform, if_pos (by simpa [ElementKind.isConcrete] using hconcrete)]
  rcases dispatch_cases o op s with ⟨i, hi, -⟩ | ⟨e', s₁, stored, hdispatch, hwhy, -⟩
  · exact absurd hi (hundecided i)
  · have hfails : perform o op s = .error e' (reached (releaseScratch s₁)) := by
      rw [hrun, both_apply, hdispatch]
      rfl
    rw [hfails] at hquiet
    refine ⟨e', _, hfails, ?_, hquiet⟩
    exact hwhy.imp_left fun he => Except.error.inj (he.symm.trans h)

/-- such an operation is known, and comes to no request: no padding can be computed for it -/
theorem Overreaches.undecided {stride dilation : List Nat} (h : s.Overreaches op stride dilation) :
    ∃ r, Operator.named? op.name = some r ∧ op.dtype ≠ .generic ∧
      (r.operator.decision s.bindings.find? op).outcome = .error (op.overflow stride dilation) := by
  cases h with
  | @mk r xs ls source target window axis hnamed hconcrete hborder hfound hpads hstride hdilation hpadding haxis hreach =>
    refine ⟨r, hnamed, hconcrete, ?_⟩
    rw [Operator.decision, hborder]
    dsimp only
    rw [hfound]
    exact Operation.plan_of_overreach hpads hstride hdilation hpadding haxis hreach

/-- **Windows that reach too far.** A run that gets to an operation whose window reaches over too many elements fails
there, says so, and computes nothing; only a failing engine may fail it before. -/
theorem overreaching_is_malformed {g : Graph} {index : Nat} (hop : g.operations[index]? = some op)
    (hreaches : Reaches default g (fresh failOn) index s) {stride dilation : List Nat}
    (h : s.Overreaches op stride dilation) (clock : Clock) :
    ∃ e s', runGraph default clock g (fresh failOn) = .error (.operation index op.name e) s' ∧
      (e = op.overflow stride dilation ∨ ∃ p, failOn = some p.name ∧ e = .engine p (Fault.injected p).message) ∧
      Quiet s s' := by
  obtain ⟨r, hnamed, hconcrete, hdecision⟩ := h.undecided
  have hfail : s.engine.failOn = failOn := by
    have hrest : Rests failOn s := kept_of_reaches ((invariant_atRest _).prepareAll default g)
      (invariant_atRest _).perform hreaches (atRest_start (coupled_fresh failOn))
    exact hrest.safe.failOn_eq
  obtain ⟨e, s', hperform, hwhy, hquiet⟩ := fault_of_undecided hconcrete hdecision
  have hfails : performNamed op s = .error e s' := by
    rw [performNamed, hnamed]
    exact hperform
  refine ⟨e, s', (runGraph_error_at_iff hop).2 ⟨s, hreaches, hfails, rfl⟩, hwhy.imp_right ?_, hquiet⟩
  rintro ⟨p, hp, he⟩
  exact ⟨p, hfail.symm.trans hp, he⟩

/-! ## Main result -/

theorem fitsWords_of_declares {g : Graph} (h : ∀ t ∈ g.tensors.values, FitsWords t.shape) {shape : List Nat}
    (hshape : g.Declares shape) : FitsWords shape := by
  rcases hshape with rfl | ⟨t, ht, rfl⟩
  · exact fitsWords_nil
  · exact h t ht

theorem rank_of_declares {g : Graph} (hvalid : g.validate = .ok ()) {shape : List Nat} (hshape : g.Declares shape) :
    shape.length ≤ 8 := by
  rcases hshape with rfl | ⟨t, ht, rfl⟩
  · exact Nat.zero_le 8
  · exact (Graph.soundTensors_iff.1 (Graph.validate_eq_ok_iff.1 hvalid).tensors t ht).rank

/-- **Words in a run.** Take a graph that is valid, and its run on a fresh recorder, whichever primitive always fails. All
shapes that it computes with are those of tensors of the graph, and that of literals. Their ranks can be read as signed
words and added to whatever axis is counted from the end. An extent can, for every start, exactly if it is in the lower
half of the words: validation does not look at it. Nor does it look at the number of elements, but for a tensor with a
payload; such a tensor fits, if it has elements at all and their number is a word, so that it is counted correctly. If
all tensors of the graph fit, so does all that the run computes with shapes.

The reach of a window is checked: an operation that is in order up to it, but reaches over too many elements, ends the
run with a malformed operand, and computes nothing; only a failing engine may come first. -/
theorem words_of_valid_graph (failOn : Option String) {g : Graph} (hvalid : g.validate = .ok ()) :
    (∀ shape, Measures failOn g shape → g.Declares shape ∧ FitsSigned shape.length) ∧
    (∀ extent, FitsSigned extent ↔ extent < 2 ^ 63) ∧
    (∀ t ∈ g.tensors.values, ∀ p, t.data = some p → p.length < 2 ^ 63 → volume t.shape < wordSize → 0 ∉ t.shape →
      FitsWords t.shape) ∧
    ((∀ t ∈ g.tensors.values, FitsWords t.shape) → ∀ shape, Measures failOn g shape → FitsWords shape) ∧
    ∀ (clock : Clock) (index : Nat) (op : Operation) (s : Session Recorder BufferRef) (stride dilation : List Nat),
      g.operations[index]? = some op → Reaches default g (fresh failOn) index s → s.Overreaches op stride dilation →
      ∃ e s', runGraph default clock g (fresh failOn) = .error (.operation index op.name e) s' ∧
        (e = .malformedOperand op.name "stride"
          s!"stride {Text.sizes stride} with dilation {Text.sizes dilation} overflows the window extent" ∨
          ∃ p, failOn = some p.name ∧ e = .engine p (Fault.injected p).message) ∧
        Quiet s s' := by
  have hsound := Graph.soundTensors_iff.1 (Graph.validate_eq_ok_iff.1 hvalid).tensors
  refine ⟨fun shape hshape => ?_, fun _ => fitsSigned_iff, fun t ht p hp => fitsWords_of_payload (hsound t ht) hp,
    fun hall shape hshape => fitsWords_of_declares hall (declares_of_measures hshape), ?_⟩
  · have hdeclares := declares_of_measures hshape
    have hrank := rank_of_declares hvalid hdeclares
    exact ⟨hdeclares, fitsSigned_iff.2 (by omega)⟩
  · exact fun clock index op s stride dilation hop hreaches h => overreaching_is_malformed hop hreaches h clock

/-- a pooling over eight places at a distance of 2 ^ 62 elements, in a graph whose tensors fit -/
theorem words_of_valid_graph_overreaching :
    let op := ((((Operation.named "max_pool" .float).withInput "input" (.identifier "x")).withOutput "output"
      (.identifier "y")).withAttribute "size" (.ofIntegers [3])).withAttribute "stride" (.ofIntegers [4611686018427387904])
    let g : Graph := ⟨"g", [op], .ofList [("x", ⟨"x", .float, [4], none⟩), ("y", ⟨"y", .float, [8], none⟩)]⟩
    g.validate = .ok () ∧ (∀ shape, Measures none g shape → FitsWords shape) ∧
      ∃ s', runGraph default Clock.still g (fresh none) = .error (.operation 0 "max_pool"
        (.malformedOperand "max_pool" "stride"
          "stride [4611686018427387904] with dilation [1] overflows the window extent")) s' := by
  intro op g
  have hvalid : g.validate = .ok () := by decide +kernel
  obtain ⟨-, -, -, hfits, hover⟩ := words_of_valid_graph none hvalid
  refine ⟨hvalid, hfits fun t ht => ?_, ?_⟩
  · have hshape : t.shape.length < 2 ^ 63 ∧ 0 ∉ t.shape ∧ volume t.shape < 2 ^ 63 := by
      revert t
      decide +kernel
    exact fitsWords_of_volume hshape.1 hshape.2.1 hshape.2.2
  · have hok : fault? (prepareAll default g (fresh none)) = none := by decide +kernel
    obtain ⟨s, hprep⟩ := exists_ok_iff.2 hok
    have hs : s = reached (prepareAll default g (fresh none)) := (congrArg reached hprep).symm
    let x : BufferRef := ⟨0, .float, [4]⟩
    let y : BufferRef := ⟨1, .float, [8]⟩
    have hinput : s.Names (op.input? "input") x := ⟨"x", by decide +kernel, by rw [hs]; decide +kernel⟩
    have houtput : s.Names (op.output? "output") y := ⟨"y", by decide +kernel, by rw [hs]; decide +kernel⟩
    have hsize : op.ListsSizes "size" [3] := ⟨[3], by decide +kernel, by simp, rfl⟩
    have hpads : Operator.PadsFor op (.pool .max false) (Operand.bound x, Operand.bound y, ()) [4] [8] [3] :=
      .pool ⟨by decide, by decide⟩ rfl hsize rfl
    have hstep : 0 ≤ (4611686018427387904 : Int64).toInt := by decide
    have hstride : op.GivesSteps "stride" 1 [2 ^ 62] :=
      .given ⟨_, by decide +kernel, List.forall_mem_singleton.2 hstep, by decide +kernel⟩ rfl (by decide)
    have haxis : 0 < [4].length := by decide
    have hreach : 2 ^ 64 ≤ windowReach [8] [3] [2 ^ 62] [1] 0 := by decide
    have hoverreaches : s.Overreaches op [2 ^ 62] [1] :=
      .mk (r := ⟨"max_pool", .pool .max false⟩) (by decide +kernel) nofun (by decide +kernel)
        (hinput.fillSlots houtput) hpads hstride (.missing (Or.inl (by decide +kernel))) (Or.inl (by decide +kernel))
        haxis hreach
    obtain ⟨e, s', hrun, rfl | ⟨p, hp, -⟩, -⟩ := hover Clock.still 0 op s [2 ^ 62] [1] rfl ⟨s, hprep, rfl⟩ hoverreaches
    · exact ⟨s', hrun⟩
    · cases hp

/-- a tensor without elements, the second extent of which is read as a negative number: a start of zero does not fit on
this axis, and a start that is counted from its end leaves the range; and a valid tensor of 2 ^ 64 elements -/
theorem wide_extent_is_negative :
    let op := ((((Operation.named "slice" .float).withInput "input" (.identifier "x")).withOutput "output"
      (.identifier "y")).withAttribute "axes" (.ofIntegers [1])).withAttribute "begin" (.ofIntegers [0])
    let g : Graph := ⟨"g", [op],
      .ofList [("x", ⟨"x", .float, [0, 2 ^ 63], none⟩), ("y", ⟨"y", .float, [0], none⟩)]⟩
    let g' : Graph := ⟨"g", [], .ofList [("x", ⟨"x", .float, [2 ^ 32, 2 ^ 32], none⟩)]⟩
    (g.validate = .ok () ∧ Measures none g [0, 2 ^ 63] ∧ asSigned (2 ^ 63) = -2 ^ 63 ∧
      (-1 : Int64).toInt + asSigned (2 ^ 63) < -2 ^ 63 ∧
      fault? (runGraph default Clock.still g (fresh none)) = some (.operation 0 "slice" (.malformedOperand "slice"
        "begin" "axes [1] and begin [0] do not fit shape [0, 9223372036854775808]"))) ∧
    g'.validate = .ok () ∧ ∃ t ∈ g'.tensors.values, volume t.shape = wordSize := by
  intro op g g'
  have hallocated : .allocate 0 .float [0, 2 ^ 63] ∈
      (reached (runGraph default Clock.still g (fresh none))).engine.log.toList := by decide +kernel
  refine ⟨⟨by decide +kernel, .allocated hallocated, by decide +kernel, by decide +kernel, by decide +kernel⟩,
    by decide +kernel, by decide +kernel⟩

end Session

end TensorGraph
