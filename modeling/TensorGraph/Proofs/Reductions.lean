/-
Reductions run over the axes that are listed, as often as they are listed.

Model: `Operation.ListsAxes` is what an operation lists as its axes, and `NamesAxes` how the entries are read in a
tensor of a rank, each from either end. An entry is compared with the rank and with no other entry, so an axis that is
listed twice is handed to the engine twice. Sessions are those on a recorder, whatever their history and whichever
primitive always fails.

Main results:
- `NamesAxes.nodup_iff`: the axes are distinct exactly if no two entries name the same one;
- `axisList_of_listsAxes`: a list is read entry by entry, up to the first that is no axis;
- `reductions_take_lists`: the same for operations, which compute nothing if an entry is no axis.
-/
import TensorGraph.Proofs.Mirror
import TensorGraph.Proofs.Transposition

namespace TensorGraph

/-! ## Model -/

/-- the axes that an operation lists; none if there is no list -/
inductive Operation.ListsAxes (op : Operation) : List Int → Prop
  | missing (h : op.Lacks "axes") : ListsAxes op []
  | given {ns : List Int64} (h : op.attribute? "axes" = some (.ofIntegers ns)) : ListsAxes op (ns.map Int64.toInt)

/-- each entry names the axis at its place, from either end -/
def NamesAxes (rank : Nat) : List Int → List Nat → Prop :=
  List.Forall₂ fun entry axis => axisIndex? entry rank = some axis

/-- the first entry that names no axis -/
def strayAxis? (rank : Nat) (entries : List Int) : Option Int :=
  entries.find? fun entry => (axisIndex? entry rank).isNone

/-- the reductions by name, with the kind and the operator of their kernels -/
def reductions : List (String × ElementKind × ReduceOp) :=
  [("sum_reduce", .float, .sum), ("mean_reduce", .float, .mean), ("max_reduce", .float, .max),
    ("min_reduce", .float, .min), ("any_reduce", .bool, .any), ("all_reduce", .bool, .all)]

/-- each is known under its name -/
theorem named?_of_mem_reductions {name : String} {kind : ElementKind} {reduce : ReduceOp}
    (h : (name, kind, reduce) ∈ reductions) : Operator.named? name = some ⟨name, .reduce kind reduce⟩ := by
  have hall : ∀ e ∈ reductions, Operator.named? e.1 = some ⟨e.1, .reduce e.2.1 e.2.2⟩ := by decide +kernel
  exact hall _ h

/-! ## Entries and axes -/

section

variable {rank : Nat} {entries : List Int} {axes : List Nat}

namespace NamesAxes

theorem lt (h : NamesAxes rank entries axes) : ∀ axis ∈ axes, axis < rank := by
  induction h with
  | nil => exact nofun
  | cons hentry _ ih => exact List.forall_mem_cons.2 ⟨lt_of_axisIndex? hentry, ih⟩

/-- an axis of its own is named by an entry of its own -/
theorem forall_mem_iff {entry : Int} {axis : Nat} (hentry : axisIndex? entry rank = some axis)
    (h : NamesAxes rank entries axes) :
    (∀ axis' ∈ axes, axis ≠ axis') ↔ ∀ entry' ∈ entries, axisIndex? entry rank ≠ axisIndex? entry' rank := by
  induction h with
  | nil => exact ⟨fun _ => nofun, fun _ => nofun⟩
  | cons hentry' _ ih =>
    rw [List.forall_mem_cons, List.forall_mem_cons, ih, hentry, hentry', ne_eq, ne_eq, Option.some_inj]

/-- **Distinct axes.** The axes are distinct exactly if no two entries name the same one. -/
theorem nodup_iff (h : NamesAxes rank entries axes) :
    axes.Nodup ↔ entries.Pairwise fun entry entry' => axisIndex? entry rank ≠ axisIndex? entry' rank := by
  induction h with
  | nil => simp
  | cons hentry hrest ih =>
    rw [List.nodup_cons, List.pairwise_cons, ← forall_mem_iff hentry hrest, ih, List.forall_mem_ne]

end NamesAxes

/-- a list names axes if none of its entries is stray -/
theorem exists_namesAxes_iff : (∃ axes, NamesAxes rank entries axes) ↔ strayAxis? rank entries = none := by
  rw [strayAxis?, List.find?_eq_none]
  induction entries with
  | nil => exact ⟨fun _ => nofun, fun _ => ⟨[], .nil⟩⟩
  | cons entry rest ih =>
    rw [List.forall_mem_cons, ← ih]
    constructor
    · rintro ⟨_, _ | ⟨hentry, hrest⟩⟩
      exact ⟨by simp [hentry], _, hrest⟩
    · rintro ⟨hentry, axes, hrest⟩
      obtain ⟨axis, haxis⟩ := Option.ne_none_iff_exists'.1 (by simpa using hentry)
      exact ⟨axis :: axes, .cons haxis hrest⟩

end

/-! ## Plans -/

namespace Operation

variable {op : Operation} {rank : Nat} {entries : List Int} {axes : List Nat}

/-- what an operation lists is what is read -/
theorem listsAxes_iff : op.ListsAxes entries ↔ ∃ found, op.integers "axes" = .ok found ∧ entries = found.getD [] := by
  constructor
  · rintro (hlacks | @⟨ns, hgiven⟩)
    · exact ⟨none, integers_eq_ok_iff.2 (Or.inl ⟨hlacks, rfl⟩), rfl⟩
    · cases ns with
      | nil => exact ⟨none, integers_eq_ok_iff.2 (Or.inl ⟨Or.inr hgiven, rfl⟩), rfl⟩
      | cons n ns => exact ⟨_, integers_eq_ok_iff.2 (Or.inr ⟨_, List.cons_ne_nil _ _, hgiven, rfl⟩), rfl⟩
  · rintro ⟨found, hfound, rfl⟩
    rcases integers_eq_ok_iff.1 hfound with ⟨hlacks, rfl⟩ | ⟨ns, -, hgiven, rfl⟩
    · exact .missing hlacks
    · exact .given hgiven

theorem mapM_axisIndex_of_namesAxes {key : String} (h : NamesAxes rank entries axes) :
    (entries.mapM fun axis => op.axisIndex key axis rank) = .ok axes := by
  induction h with
  | nil => rfl
  | cons hentry _ ih =>
    rw [List.mapM_cons, ih, axisIndex, hentry]
    rfl

/-- the first entry that is no axis is at fault -/
theorem mapM_axisIndex_of_stray {key : String} {stray : Int} (h : strayAxis? rank entries = some stray) :
    (entries.mapM fun axis => op.axisIndex key axis rank) =
      .error (op.malformed key s!"axis {stray} out of range for rank {rank}") := by
  induction entries with
  | nil => cases h
  | cons entry rest ih =>
    rw [List.mapM_cons, axisIndex]
    rw [strayAxis?, List.find?_cons] at h
    cases hentry : axisIndex? entry rank with
    | none =>
      rw [hentry] at h
      cases h
      rfl
    | some axis =>
      rw [hentry] at h
      dsimp only
      rw [ih h]
      rfl

/-- **Lists of axes.** A list is read entry by entry, and the first that is no axis is at fault. -/
theorem axisList_of_listsAxes (h : op.ListsAxes entries) :
    (∀ axes, op.axisList "axes" rank = .ok axes ↔ NamesAxes rank entries axes) ∧
    ∀ stray, strayAxis? rank entries = some stray →
      op.axisList "axes" rank = .error (op.malformed "axes" s!"axis {stray} out of range for rank {rank}") := by
  obtain ⟨found, hfound, rfl⟩ := listsAxes_iff.1 h
  have hread : op.axisList "axes" rank = (found.getD []).mapM fun axis => op.axisIndex "axes" axis rank := by
    rw [axisList, hfound]
    rfl
  rw [hread]
  refine ⟨fun axes => ⟨fun haxes => ?_, mapM_axisIndex_of_namesAxes⟩, fun stray => mapM_axisIndex_of_stray⟩
  cases hstray : strayAxis? rank (found.getD []) with
  | some stray => cases haxes.symm.trans (mapM_axisIndex_of_stray hstray)
  | none =>
    obtain ⟨axes', haxes'⟩ := exists_namesAxes_iff.2 hstray
    cases haxes.symm.trans (mapM_axisIndex_of_namesAxes haxes')
    exact haxes'

section

variable {τ : Type} [Handle τ] {kind : ElementKind} {reduce : ReduceOp} {input output : τ}

/-- a reduction that is planned runs over the axes that are listed -/
theorem planReduce_eq_ok_iff {i : Instruction τ} : op.planReduce kind reduce input output = .ok i ↔
    ∃ entries axes f, op.ListsAxes entries ∧ NamesAxes (Handle.rank input) entries axes ∧ op.reduceOp reduce = .ok f ∧
      i = .compute .reduce (.reduce f kind input output axes) := by
  rw [planReduce, except_bind_eq_ok_iff]
  constructor
  · rintro ⟨axes, haxes, h⟩
    obtain ⟨f, hf, h⟩ := except_bind_eq_ok_iff.1 h
    cases h
    obtain ⟨found, hfound, -⟩ := except_bind_eq_ok_iff.1 haxes
    have hlists : op.ListsAxes (found.getD []) := listsAxes_iff.2 ⟨found, hfound, rfl⟩
    exact ⟨_, axes, f, hlists, ((axisList_of_listsAxes hlists).1 axes).1 haxes, hf, rfl⟩
  · rintro ⟨entries, axes, f, hlists, haxes, hf, rfl⟩
    refine ⟨axes, ((axisList_of_listsAxes hlists).1 axes).2 haxes, ?_⟩
    rw [hf]
    rfl

theorem planReduce_of_stray (hlists : op.ListsAxes entries) {stray : Int}
    (hstray : strayAxis? (Handle.rank input) entries = some stray) :
    op.planReduce kind reduce input output =
      .error (op.malformed "axes" s!"axis {stray} out of range for rank {Handle.rank input}") := by
  rw [planReduce, (axisList_of_listsAxes hlists).2 stray hstray]
  rfl

end

end Operation

/-! ## Performing -/

namespace Session

variable {s s' : Session Recorder BufferRef} {op : Operation} {kind : ElementKind} {reduce : ReduceOp}

theorem performNamed_reduce (hname : (op.name, kind, reduce) ∈ reductions) :
    performNamed op s = perform (.reduce kind reduce) op s := by
  rw [performNamed, named?_of_mem_reductions hname]

/-- a reduction that goes well logs the axes that it lists -/
theorem performNamed_reduce_ok (hs : s.scratch = []) (hname : (op.name, kind, reduce) ∈ reductions)
    (h : performNamed op s = .ok () s') : ∃ entries axes f, ∃ input output : BufferRef, ∃ ls,
      op.ListsAxes entries ∧ op.inputRank? s.bindings.find? = some input.shape.length ∧
      NamesAxes input.shape.length entries axes ∧ op.reduceOp reduce = .ok f ∧
      s'.engine.log.toList = s.logAfter ls (.reduce f kind input.id output.id axes) := by
  rw [performNamed_reduce hname] at h
  obtain ⟨i, hd, hlog⟩ := log_of_perform_ok hs h
  obtain ⟨xs, hfound, hplan⟩ := plan_of_decision hd
  obtain ⟨entries, axes, f, hlists, haxes, hf, rfl⟩ := Operation.planReduce_eq_ok_iff.1
    (show op.planReduce kind reduce xs.1 xs.2.1 = .ok i from hplan)
  have hview := Operand.sameView_ref s.engine.buffers.size
  have hrank : (Operand.ref s.engine.buffers.size xs.1).shape.length = Handle.rank xs.1 := hview.rank xs.1
  refine ⟨entries, axes, f, Operand.ref _ xs.1, Operand.ref _ xs.2.1, _, hlists, ?_, ?_, hf, hlog⟩
  · rw [hrank]
    exact Lookup.inputRank?_of_fillSlots hfound
  · rwa [hrank]

/-- an entry that is no axis leaves nothing to compute -/
theorem undecided_of_stray {entries : List Int} {rank : Nat} {stray : Int} (hlists : op.ListsAxes entries)
    (hrank : op.inputRank? s.bindings.find? = some rank) (hstray : strayAxis? rank entries = some stray)
    (i : Instruction (Operand BufferRef)) :
    (Operator.decision (.reduce kind reduce) s.bindings.find? op).outcome ≠ .ok i := by
  intro hd
  obtain ⟨xs, hfound, hplan⟩ := plan_of_decision hd
  have hinput := Lookup.inputRank?_of_fillSlots hfound
  rw [hrank] at hinput
  obtain rfl := Option.some.inj hinput
  have hrefused : op.planReduce kind reduce xs.1 xs.2.1 = _ := Operation.planReduce_of_stray hlists hstray
  cases hrefused.symm.trans hplan

section

variable {input output : BufferRef} {entries : List Int} (hs : s.scratch = [])
  (hname : (op.name, kind, reduce) ∈ reductions) (hconcrete : op.dtype.isConcrete = true)
  (hinput : s.Names (op.input? "input") input) (houtput : s.Names (op.output? "output") output)
  (hlists : op.ListsAxes entries)

include hs hname hconcrete hinput houtput hlists

/-- entries that all are axes are reduced along, repeated or not -/
theorem performNamed_reduce_of_axes (hfail : s.engine.failOn = none) {f : ReduceOp} (hf : op.reduceOp reduce = .ok f)
    {axes : List Nat} (haxes : NamesAxes input.shape.length entries axes) :
    performNamed op s = .ok () (s.performed [] (.compute .reduce (.reduce f kind input output axes))) := by
  exact (performNamed_eq_ok_iff hs hfail (named?_of_mem_reductions hname) rfl (hinput.fillSlots houtput)).2
    ⟨hconcrete, rfl, _, Operation.planReduce_eq_ok_iff.2 ⟨entries, axes, f, hlists, haxes, hf, rfl⟩, rfl⟩

/-- the first entry that is no axis is at fault before anything is asked of the engine -/
theorem performNamed_reduce_of_stray {stray : Int} (hstray : strayAxis? input.shape.length entries = some stray) :
    performNamed op s = .error (.malformedOperand op.name "axes"
      s!"axis {stray} out of range for rank {input.shape.length}") s := by
  have hplan : op.planReduce kind reduce (Operand.bound input) (.bound output) = .error (op.malformed "axes"
      s!"axis {stray} out of range for rank {input.shape.length}") := Operation.planReduce_of_stray hlists hstray
  rw [performNamed_reduce hname]
  refine perform_of_undecided hs hconcrete ?_
  rw [decision_of_found rfl (hinput.fillSlots houtput)]
  exact congrArg (Decision.mk []) hplan

end

end Session

/-! ## Main result -/

open Session in
/-- **Reductions take lists of axes.** Take any session on a recorder, whatever its history and whichever primitive
always fails. A reduction that goes well is logged with the axes that it lists, in the order and as often as it lists
them. Each of them is an axis of the input. They are distinct exactly if no two entries name the same one, be it from
different ends. If an entry names no axis of the input, the reduction fails and computes nothing.

If nothing always fails, take names of bound tensors as operands, and a concrete kind. If every entry names an axis,
nothing is logged but the reduction along them; otherwise the first that does not is at fault, and the session stays as
it is. -/
theorem reductions_take_lists {op : Operation} {kind : ElementKind} {reduce : ReduceOp}
    (hname : (op.name, kind, reduce) ∈ reductions) :
    (∀ (failOn : Option String) (history : List Step),
      let s := (fresh failOn).after history
      (fault? (performNamed op s) = none → ∃ entries axes f, ∃ input output : BufferRef, ∃ ls,
        op.ListsAxes entries ∧ op.inputRank? s.bindings.find? = some input.shape.length ∧
        NamesAxes input.shape.length entries axes ∧ op.reduceOp reduce = .ok f ∧
        (reached (performNamed op s)).engine.log.toList = s.logAfter ls (.reduce f kind input.id output.id axes) ∧
        (∀ axis ∈ axes, axis < input.shape.length) ∧
        (axes.Nodup ↔ entries.Pairwise fun entry entry' =>
          axisIndex? entry input.shape.length ≠ axisIndex? entry' input.shape.length)) ∧
      ∀ entries rank stray, op.ListsAxes entries → op.inputRank? s.bindings.find? = some rank →
        strayAxis? rank entries = some stray →
          fault? (performNamed op s) ≠ none ∧ Quiet s (reached (performNamed op s))) ∧
    ∀ (history : List Step) (entries : List Int) (input output : BufferRef),
      let s := (fresh none).after history
      op.dtype.isConcrete = true → s.Names (op.input? "input") input → s.Names (op.output? "output") output →
      op.ListsAxes entries →
        (∀ axes f, NamesAxes input.shape.length entries axes → op.reduceOp reduce = .ok f →
          (∃ s', performNamed op s = .ok () s') ∧ (reached (performNamed op s)).engine.log.toList =
            s.logAfter [] (.reduce f kind input.id output.id axes)) ∧
        ∀ stray, strayAxis? input.shape.length entries = some stray →
          performNamed op s = .error (.malformedOperand op.name "axes"
            s!"axis {stray} out of range for rank {input.shape.length}") s := by
  refine ⟨fun failOn history => ⟨fun hok => ?_, fun entries rank stray hlists hrank hstray => ?_⟩, ?_⟩
  · obtain ⟨-, hscratch⟩ := coupled_after failOn history
    obtain ⟨s', hs'⟩ := exists_ok_iff.2 hok
    obtain ⟨entries, axes, f, input, output, ls, hlists, hrank, haxes, hf, hlog⟩ :=
      performNamed_reduce_ok hscratch hname hs'
    rw [hs', reached_ok]
    exact ⟨entries, axes, f, input, output, ls, hlists, hrank, haxes, hf, hlog, haxes.lt, haxes.nodup_iff⟩
  · rw [performNamed_reduce hname]
    exact quiet_of_undecided (undecided_of_stray hlists hrank hstray)
  · intro history entries input output s hconcrete hinput houtput hlists
    obtain ⟨hcoupled, hscratch⟩ := coupled_after none history
    refine ⟨fun axes f haxes hf => ?_, fun stray hstray =>
      performNamed_reduce_of_stray hscratch hname hconcrete hinput houtput hlists hstray⟩
    have hok := performNamed_reduce_of_axes hscratch hname hconcrete hinput houtput hlists hcoupled.failOn_eq hf haxes
    exact ⟨⟨_, hok⟩, logAfter_of_ok hok⟩

open Session in
/-- one axis listed from both ends, which is reduced along twice, and an axis that is not there, which is refused -/
theorem reductions_take_lists_with_repeats :
    let history : List Step := [.create ⟨"x", .float, [2, 3], none⟩, .create ⟨"y", .float, [2, 1], none⟩]
    let op := ((Operation.named "sum_reduce" .float).withInput "input" (.identifier "x")).withOutput "output"
      (.identifier "y")
    let repeating := op.withAttribute "axes" (.ofIntegers [1, -1])
    let straying := op.withAttribute "axes" (.ofIntegers [0, 2])
    let s := (fresh none).after history
    let s' := (fresh (some "copy")).after history
    (repeating.name, ElementKind.float, ReduceOp.sum) ∈ reductions ∧ repeating.ListsAxes [1, -1] ∧
      (reached (performNamed repeating s)).engine.log.toList = s.logAfter [] (.reduce .sum .float 0 1 [1, 1]) ∧
      (straying.name, ElementKind.float, ReduceOp.sum) ∈ reductions ∧ straying.ListsAxes [0, 2] ∧
      performNamed straying s = .error (.malformedOperand "sum_reduce" "axes" "axis 2 out of range for rank 2") s ∧
      fault? (performNamed straying s') ≠ none ∧ Quiet s' (reached (performNamed straying s')) := by
  intro history op repeating straying s s'
  have hrepeating : (repeating.name, ElementKind.float, ReduceOp.sum) ∈ reductions := by decide +kernel
  have hstraying : (straying.name, ElementKind.float, ReduceOp.sum) ∈ reductions := by decide +kernel
  have hlists : repeating.ListsAxes [1, -1] := @Operation.ListsAxes.given _ [1, -1] (by decide +kernel)
  have hlists' : straying.ListsAxes [0, 2] := @Operation.ListsAxes.given _ [0, 2] (by decide +kernel)
  have hinput : s.Names (op.input? "input") ⟨0, .float, [2, 3]⟩ := ⟨"x", by decide +kernel, by decide +kernel⟩
  have houtput : s.Names (op.output? "output") ⟨1, .float, [2, 1]⟩ := ⟨"y", by decide +kernel, by decide +kernel⟩
  have haxes : NamesAxes 2 [1, -1] [1, 1] := .cons (by decide) (.cons (by decide) .nil)
  have hstray : strayAxis? 2 [0, 2] = some 2 := by decide
  have hdone := ((reductions_take_lists hrepeating).2 history _ _ _ rfl hinput houtput hlists).1 _ .sum haxes rfl
  have hrefused := ((reductions_take_lists hstraying).2 history _ _ _ rfl hinput houtput hlists').2 _ hstray
  have hquiet := ((reductions_take_lists hstraying).1 (some "copy") history).2 _ 2 _ hlists' (by decide +kernel) hstray
  have htext : s!"axis {(2 : Int)} out of range for rank {[2, 3].length}" = "axis 2 out of range for rank 2" := by
    decide +kernel
  refine ⟨hrepeating, hlists, hdone.2, hstraying, hlists', ?_, hquiet⟩
  rw [← htext]
  exact hrefused

open Session in
/-- a reduction that lists one axis from both ends is not refused, and its axes are no set -/
theorem repeated_axis_is_reduced_twice :
    let s := (fresh none).after [.create ⟨"x", .float, [2, 3], none⟩, .create ⟨"y", .float, [2, 1], none⟩]
    let op := (((Operation.named "sum_reduce" .float).withInput "input" (.identifier "x")).withOutput "output"
      (.identifier "y")).withAttribute "axes" (.ofIntegers [1, -1])
    fault? (performNamed op s) = none ∧ ∃ axes, ¬ axes.Nodup ∧
      (reached (performNamed op s)).engine.log.toList = s.logAfter [] (.reduce .sum .float 0 1 axes) := by
  intro s op
  have hok : fault? (performNamed op s) = none := by decide +kernel
  have hlog : (reached (performNamed op s)).engine.log.toList = s.logAfter [] (.reduce .sum .float 0 1 [1, 1]) := by
    decide +kernel
  exact ⟨hok, [1, 1], by decide, hlog⟩

end TensorGraph
