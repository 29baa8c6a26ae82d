/-
Transposition takes exactly the lists of axes that are orders of their own.

Model: `LeadsOrder` says that a list of axes names each of the first axes once, as many as it has entries; the axes
after these stay in place. `Operation.GivesAxes` is what an operation lists as its axes. Sessions are those on a
recorder, whatever their history and whichever primitive always fails.

Main results:
- `completePermutation?_eq_some_iff`: a list is filled up exactly if it leads an order, and to which order;
- `transposition_takes_orders`: the same for operations, which compute nothing otherwise.
-/
import TensorGraph.Proofs.Execution
import TensorGraph.Proofs.Spellings

namespace TensorGraph

/-! ## Model -/

/-- a list that names each of the first axes once -/
structure LeadsOrder (axes : List Nat) (rank : Nat) : Prop where
  length_le : axes.length ≤ rank
  perm : axes.Perm (List.range axes.length)

/-- the listed axes, and after them all others in place -/
def orderFrom (axes : List Nat) (rank : Nat) : List Nat := axes ++ List.range' axes.length (rank - axes.length)

/-- the axes that an operation lists; none if there is no list -/
inductive Operation.GivesAxes (op : Operation) : List Nat → Prop
  | missing (h : op.Lacks "axes") : GivesAxes op []
  | given {axes : List Nat} (h : op.ListsSizes "axes" axes) : GivesAxes op axes

/-! ## Orders -/

section

variable {axes : List Nat} {rank : Nat}

theorem range_append_range' {n : Nat} (h : n ≤ rank) : List.range n ++ List.range' n (rank - n) = List.range rank := by
  have happend : List.range' 0 n ++ List.range' (0 + n) (rank - n) = List.range' 0 (n + (rank - n)) :=
    List.range'_append_1
  rwa [Nat.zero_add, Nat.add_sub_cancel' h, ← List.range_eq_range', ← List.range_eq_range'] at happend

/-- distinct axes that leave no gap are all of the first ones -/
theorem leadsOrder_of_lt (hle : axes.length ≤ rank) (hnodup : axes.Nodup) (hlt : ∀ axis ∈ axes, axis < axes.length) :
    LeadsOrder axes rank where
  length_le := hle
  perm := by
    have hsub : axes ⊆ List.range axes.length := fun axis haxis => List.mem_range.2 (hlt axis haxis)
    exact (List.subperm_of_subset hnodup hsub).perm_of_length_le (Nat.le_of_eq List.length_range)

/-- what is filled up is an order of all axes -/
theorem LeadsOrder.perm_range (h : LeadsOrder axes rank) : (orderFrom axes rank).Perm (List.range rank) := by
  have happend : (orderFrom axes rank).Perm (List.range axes.length ++ List.range' axes.length (rank - axes.length)) :=
    h.perm.append_right _
  rwa [range_append_range' h.length_le] at happend

/-- axes beyond the list stay in place -/
theorem getElem?_orderFrom {k : Nat} (hle : axes.length ≤ k) (hlt : k < rank) :
    (orderFrom axes rank)[k]? = some k := by
  rw [orderFrom, List.getElem?_append_right hle, List.getElem?_range' (by omega), Nat.one_mul, Nat.add_sub_cancel' hle]

/-- **Filling up.** A list is filled up exactly if it leads an order, and then by the axes beyond it, each in place. -/
theorem completePermutation?_eq_some_iff {order : List Nat} :
    completePermutation? axes rank = some order ↔ LeadsOrder axes rank ∧ order = orderFrom axes rank := by
  have hall : (orderFrom axes rank).all (· < rank) = true ↔ ∀ axis ∈ orderFrom axes rank, axis < rank := by simp
  unfold completePermutation?
  rw [← orderFrom]
  by_cases hle : axes.length ≤ rank
  · rw [if_neg (Nat.not_lt.2 hle)]
    simp only [Option.ite_none_right_eq_some, Option.some.injEq, hall]
    constructor
    · rintro ⟨⟨hlt, hnodup⟩, rfl⟩
      refine ⟨leadsOrder_of_lt hle hnodup.of_append_left fun axis haxis => ?_, rfl⟩
      -- a listed axis that is not one of the first is also among those in place
      by_contra hge
      have hrank : axis < rank := hlt axis (List.mem_append_left _ haxis)
      have htail : axis ∈ List.range' axes.length (rank - axes.length) := List.mem_range'_1.2 (by omega)
      exact List.disjoint_of_nodup_append hnodup haxis htail
    · rintro ⟨hleads, rfl⟩
      have hperm := hleads.perm_range
      exact ⟨⟨fun axis haxis => List.mem_range.1 (hperm.mem_iff.1 haxis), hperm.nodup_iff.2 List.nodup_range⟩, rfl⟩
  · rw [if_pos (Nat.not_le.1 hle)]
    refine ⟨nofun, ?_⟩
    rintro ⟨hleads, -⟩
    exact absurd hleads.length_le hle

end

/-! ## Plans -/

namespace Operation

variable {op : Operation} {axes : List Nat}

/-- what an operation lists is what is read -/
theorem givesAxes_iff : op.GivesAxes axes ↔ ∃ found, op.sizes "axes" = .ok found ∧ axes = found.getD [] := by
  constructor
  · rintro (hlacks | hlists)
    · exact ⟨none, sizes_eq_ok_iff.2 (Or.inl ⟨hlacks, rfl⟩), rfl⟩
    · cases axes with
      | nil => exact ⟨none, sizes_eq_ok_iff.2 (Or.inl ⟨hlists.lacks, rfl⟩), rfl⟩
      | cons axis rest => exact ⟨_, sizes_eq_ok_iff.2 (Or.inr ⟨_, List.cons_ne_nil _ _, hlists, rfl⟩), rfl⟩
  · rintro ⟨found, hfound, rfl⟩
    rcases sizes_eq_ok_iff.1 hfound with ⟨hlacks, rfl⟩ | ⟨l, -, hlists, rfl⟩
    · exact .missing hlacks
    · exact .given hlists

section

variable {τ : Type} [Handle τ] {input output : τ}

/-- with axes that are read, and a rank that is not too large, all depends on the order -/
theorem planTranspose_of_givesAxes (input output : τ) (haxes : op.GivesAxes axes)
    (hrank : Handle.rank input ≤ maxLayoutRank) :
    op.planTranspose input output = match completePermutation? axes (Handle.rank input) with
      | some order => .ok (.compute .transpose (.transpose input output order))
      | none => .error (op.malformed "axes"
          s!"{Text.sizes axes} is not a permutation prefix for rank {Handle.rank input}") := by
  obtain ⟨found, hfound, rfl⟩ := givesAxes_iff.1 haxes
  have hcheck : op.checkRank (Handle.rank input) maxLayoutRank = .ok () := if_neg (Nat.not_lt.2 hrank)
  rw [planTranspose, hcheck, hfound]
  rfl

/-- a transposition that is planned is one to an order -/
theorem leadsOrder_of_planTranspose (haxes : op.GivesAxes axes) {i : Instruction τ}
    (h : op.planTranspose input output = .ok i) : LeadsOrder axes (Handle.rank input) := by
  have hrank : Handle.rank input ≤ maxLayoutRank := by
    obtain ⟨_, hcheck, -⟩ := except_bind_eq_ok_iff.1 h
    by_contra hgt
    rw [checkRank, if_pos (Nat.not_le.1 hgt)] at hcheck
    cases hcheck
  rw [planTranspose_of_givesAxes input output haxes hrank] at h
  cases horder : completePermutation? axes (Handle.rank input) with
  | none =>
    rw [horder] at h
    cases h
  | some order => exact (completePermutation?_eq_some_iff.1 horder).1

end

end Operation

/-! ## Performing -/

namespace Session

variable {s : Session Recorder BufferRef} {o : Operator} {op : Operation}

/-- an operation that comes to no request fails, and computes nothing -/
theorem quiet_of_undecided (h : ∀ i, (o.decision s.bindings.find? op).outcome ≠ .ok i) :
    fault? (perform o op s) ≠ none ∧ Quiet s (reached (perform o op s)) := by
  constructor
  · intro hok
    cases hp : perform o op s with
    | ok u s' =>
      obtain ⟨i, hd⟩ := decision_of_perform hp
      exact h i hd
    | error e s' =>
      rw [hp] at hok
      cases hok
  · obtain ⟨stored, core, released, hstored, hreleased, hcore, hlog⟩ := log_of_perform o op s
    refine ⟨stored ++ (core ++ released), hlog, fun c hc => ?_⟩
    rcases hcore with rfl | ⟨i, hd, -⟩
    · rw [List.nil_append, List.mem_append] at hc
      exact hc.elim (hstored c) (hreleased c)
    · exact absurd hd (h i)

theorem named?_transpose (hname : op.name = "transpose") :
    Operator.named? op.name = some ⟨"transpose", .transpose⟩ := by
  rw [hname]
  decide +kernel

theorem performNamed_transpose (hname : op.name = "transpose") : performNamed op s = perform .transpose op s := by
  rw [performNamed, named?_transpose hname]

/-- axes that lead no order come to no request -/
theorem undecided_of_not_leadsOrder {axes : List Nat} {rank : Nat} (haxes : op.GivesAxes axes)
    (hrank : op.inputRank? s.bindings.find? = some rank) (hnot : ¬ LeadsOrder axes rank)
    (i : Instruction (Operand BufferRef)) : (Operator.decision .transpose s.bindings.find? op).outcome ≠ .ok i := by
  intro hd
  obtain ⟨xs, hfound, hplan⟩ := plan_of_decision hd
  have hinput := Lookup.inputRank?_of_fillSlots hfound
  rw [hrank] at hinput
  obtain rfl := Option.some.inj hinput
  exact hnot (Operation.leadsOrder_of_planTranspose haxes (show op.planTranspose xs.1 xs.2.1 = .ok i from hplan))

section

variable {input output : BufferRef}

variable {axes : List Nat} (hs : s.scratch = []) (hname : op.name = "transpose")
  (hconcrete : op.dtype.isConcrete = true) (hinput : s.Names (op.input? "input") input)
  (houtput : s.Names (op.output? "output") output) (hrank : input.shape.length ≤ Operation.maxLayoutRank)
  (haxes : op.GivesAxes axes)

include hs hname hconcrete hinput houtput hrank haxes

/-- axes that lead an order are transposed to it -/
theorem performNamed_transpose_of_order (hfail : s.engine.failOn = none) {order : List Nat}
    (horder : completePermutation? axes input.shape.length = some order) :
    performNamed op s = .ok () (s.performed [] (.compute .transpose (.transpose input output order))) := by
  have hplan : op.planTranspose (Operand.bound input) (.bound output) =
      .ok (.compute .transpose (.transpose (.bound input) (.bound output) order)) := by
    refine (Operation.planTranspose_of_givesAxes (Operand.bound input) (.bound output) haxes hrank).trans ?_
    rw [show completePermutation? axes (Handle.rank (Operand.bound input)) = some order from horder]
  exact (performNamed_eq_ok_iff hs hfail (named?_transpose hname) rfl (hinput.fillSlots houtput)).2
    ⟨hconcrete, rfl, _, hplan, rfl⟩

/-- axes that lead no order are at fault before anything is asked of the engine -/
theorem performNamed_transpose_of_no_order (horder : completePermutation? axes input.shape.length = none) :
    performNamed op s = .error (.malformedOperand "transpose" "axes"
      s!"{Text.sizes axes} is not a permutation prefix for rank {input.shape.length}") s := by
  have hplan : op.planTranspose (Operand.bound input) (.bound output) = .error (op.malformed "axes"
      s!"{Text.sizes axes} is not a permutation prefix for rank {input.shape.length}") := by
    refine (Operation.planTranspose_of_givesAxes (Operand.bound input) (.bound output) haxes hrank).trans ?_
    rw [show completePermutation? axes (Handle.rank (Operand.bound input)) = none from horder]
    rfl
  rw [performNamed_transpose hname]
  refine perform_of_undecided hs hconcrete ?_
  rw [decision_of_found rfl (hinput.fillSlots houtput), ← hname]
  exact congrArg (Decision.mk []) hplan

end

end Session

/-! ## Main result -/

open Session in
/-- **Transposition takes orders.** A list of axes is filled up to an order exactly if it names each of the first axes
once. The order then begins with the list, names every axis once, and leaves those beyond the list in place.

In any session, whatever its history and whichever primitive always fails, a transposition whose axes lead no order of
the axes of its input fails, and computes nothing.

If nothing always fails, take names of bound tensors as operands, of no more axes than are rearranged, and a concrete
kind. If the axes lead an order, nothing is logged but the transposition to it; otherwise they are at fault, and the
session stays as it is. -/
theorem transposition_takes_orders :
    (∀ (axes : List Nat) (rank : Nat),
      ((∃ order, completePermutation? axes rank = some order) ↔
        axes.length ≤ rank ∧ axes.Perm (List.range axes.length)) ∧
      ∀ order, completePermutation? axes rank = some order → order.Perm (List.range rank) ∧ axes <+: order ∧
        ∀ k, axes.length ≤ k → k < rank → order[k]? = some k) ∧
    (∀ (failOn : Option String) (history : List Step) (op : Operation) (axes : List Nat) (rank : Nat),
      let s := (fresh failOn).after history
      op.name = "transpose" → op.GivesAxes axes → op.inputRank? s.bindings.find? = some rank →
      completePermutation? axes rank = none →
        fault? (performNamed op s) ≠ none ∧ Quiet s (reached (performNamed op s))) ∧
    ∀ (history : List Step) (op : Operation) (axes : List Nat) (input output : BufferRef),
      let s := (fresh none).after history
      op.name = "transpose" → op.GivesAxes axes → op.dtype.isConcrete = true →
      s.Names (op.input? "input") input → s.Names (op.output? "output") output →
      input.shape.length ≤ Operation.maxLayoutRank →
        (∀ order, completePermutation? axes input.shape.length = some order →
          (∃ s', performNamed op s = .ok () s') ∧ (reached (performNamed op s)).engine.log.toList =
            s.engine.log.toList ++ [.compute (.transpose input.id output.id order)]) ∧
        (completePermutation? axes input.shape.length = none →
          performNamed op s = .error (.malformedOperand "transpose" "axes"
            s!"{Text.sizes axes} is not a permutation prefix for rank {input.shape.length}") s) := by
  refine ⟨fun axes rank => ⟨⟨?_, ?_⟩, ?_⟩, ?_, ?_⟩
  · rintro ⟨order, horder⟩
    obtain ⟨⟨hle, hperm⟩, -⟩ := completePermutation?_eq_some_iff.1 horder
    exact ⟨hle, hperm⟩
  · rintro ⟨hle, hperm⟩
    exact ⟨_, completePermutation?_eq_some_iff.2 ⟨⟨hle, hperm⟩, rfl⟩⟩
  · intro order horder
    obtain ⟨hleads, rfl⟩ := completePermutation?_eq_some_iff.1 horder
    exact ⟨hleads.perm_range, List.prefix_append _ _, fun k => getElem?_orderFrom⟩
  · intro failOn history op axes rank s hname haxes hrank horder
    have hnot : ¬ LeadsOrder axes rank := fun hleads =>
      Option.some_ne_none _ ((completePermutation?_eq_some_iff.2 ⟨hleads, rfl⟩).symm.trans horder)
    rw [performNamed_transpose hname]
    exact quiet_of_undecided (undecided_of_not_leadsOrder haxes hrank hnot)
  · intro history op axes input output s hname haxes hconcrete hinput houtput hrank
    obtain ⟨hcoupled, hscratch⟩ := coupled_after none history
    refine ⟨fun order horder => ?_, fun horder =>
      performNamed_transpose_of_no_order hscratch hname hconcrete hinput houtput hrank haxes horder⟩
    have hok := performNamed_transpose_of_order hscratch hname hconcrete hinput houtput hrank haxes
      hcoupled.failOn_eq horder
    refine ⟨⟨_, hok⟩, ?_⟩
    rw [hok, reached_ok, log_performed_nil]
    rfl

open Session in
/-- two axes exchanged on three, which is done, and two axes listed that leave a gap, which is refused -/
theorem transposition_takes_orders_of_three :
    let history : List Step := [.create ⟨"x", .float, [2, 3, 4], none⟩, .create ⟨"y", .float, [3, 2, 4], none⟩]
    let op := ((Operation.named "transpose" .float).withInput "input" (.identifier "x")).withOutput "output"
      (.identifier "y")
    let exchanging := op.withAttribute "axes" (.ofIntegers [1, 0])
    let leaving := op.withAttribute "axes" (.ofIntegers [2, 0])
    let s := (fresh none).after history
    let s' := (fresh (some "copy")).after history
    (exchanging.GivesAxes [1, 0] ∧ completePermutation? [1, 0] 3 = some [1, 0, 2] ∧
      (reached (performNamed exchanging s)).engine.log.toList =
        s.engine.log.toList ++ [.compute (.transpose 0 1 [1, 0, 2])]) ∧
    leaving.GivesAxes [2, 0] ∧ completePermutation? [2, 0] 3 = none ∧
      performNamed leaving s =
        .error (.malformedOperand "transpose" "axes" "[2, 0] is not a permutation prefix for rank 3") s ∧
      fault? (performNamed leaving s') ≠ none ∧ Quiet s' (reached (performNamed leaving s')) := by
  intro history op exchanging leaving s s'
  have hexchanging : exchanging.GivesAxes [1, 0] := .given ⟨[1, 0], by decide +kernel, by simp, rfl⟩
  have hleaving : leaving.GivesAxes [2, 0] := .given ⟨[2, 0], by decide +kernel, by simp, rfl⟩
  have horder : completePermutation? [1, 0] 3 = some [1, 0, 2] := by decide
  have hgap : completePermutation? [2, 0] 3 = none := by decide
  have hinput : s.Names (op.input? "input") ⟨0, .float, [2, 3, 4]⟩ := ⟨"x", by decide +kernel, by decide +kernel⟩
  have houtput : s.Names (op.output? "output") ⟨1, .float, [3, 2, 4]⟩ := ⟨"y", by decide +kernel, by decide +kernel⟩
  obtain ⟨-, hundecided, hnamed⟩ := transposition_takes_orders
  have hdone := (hnamed history exchanging [1, 0] _ _ rfl hexchanging rfl hinput houtput (by decide)).1 _ horder
  have hrefused := (hnamed history leaving [2, 0] _ _ rfl hleaving rfl hinput houtput (by decide)).2 hgap
  have htext : s!"{Text.sizes [2, 0]} is not a permutation prefix for rank {[2, 3, 4].length}" =
      "[2, 0] is not a permutation prefix for rank 3" := by decide +kernel
  refine ⟨⟨hexchanging, horder, hdone.2⟩, hleaving, hgap, ?_,
    hundecided (some "copy") history leaving [2, 0] 3 rfl hleaving (by decide +kernel) hgap⟩
  rw [← htext]
  exact hrefused

end TensorGraph
