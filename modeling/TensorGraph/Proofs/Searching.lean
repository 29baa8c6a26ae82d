/-
Searching by halving finds what a scan finds.

Model: a table is `Ascending` if its names are in strict order. Halving looks at a window of the table; outside of it,
names are too small or too large. An operation that is known fails over its operands or in the engine
(`RunError.IsOfOperator`), and never for its name.

Main results:
- `searchTable_eq_find?`: in an ascending table, halving and scanning agree on every name;
- `Session.fails_perform`: an operation that is known does not fail as an unknown one, on any engine;
- `operations_are_found_by_name`.
-/
import TensorGraph.Proofs.Composition

namespace TensorGraph

/-! ## Model -/

/-- a table whose names are in strict order -/
def Ascending (table : Array Registration) : Prop := (table.toList.map (·.name)).Pairwise (· < ·)

/-- faults of an operation whose name is known -/
def RunError.IsOfOperator : RunError → Prop
  | .malformedOperand .. | .unsupportedOperation .. | .unsupportedKind .. | .unboundTensor _ | .engine .. => True
  | _ => False

theorem RunError.IsOfOperator.of_complaint {e : RunError} (h : e.IsComplaint) : e.IsOfOperator := by
  cases e <;> trivial

/-! ## Tables -/

theorem Ascending.name_lt {table : Array Registration} (h : Ascending table) {i j : Nat} (hij : i < j)
    (hj : j < table.size) : table[i].name < table[j].name := by
  have hlt := List.pairwise_iff_getElem.1 h i j (by simpa using hij.trans hj) (by simpa using hj) hij
  simpa using hlt

/-- an earlier name is not a greater one -/
theorem Ascending.not_name_lt {table : Array Registration} (h : Ascending table) {i j : Nat} (hij : i ≤ j)
    (hj : j < table.size) : ¬ table[j].name < table[i].name := by
  rcases Nat.lt_or_eq_of_le hij with hij | rfl
  · exact fun hlt => String.lt_irrefl _ (String.lt_trans hlt (h.name_lt hij hj))
  · exact String.lt_irrefl _

/-- what is found is in the table and has the name, whatever the order of the table is -/
theorem searchTable_sound {table : Array Registration} {name : String} {lo hi : Nat} {bound : hi ≤ table.size}
    {r : Registration} (h : searchTable table name lo hi bound = some r) : r ∈ table ∧ r.name = name := by
  fun_induction searchTable table name lo hi bound with
  | case1 lo hi bound hlt mid hmid heq =>
    obtain rfl := Option.some.inj h
    exact ⟨Array.getElem_mem hmid, heq⟩
  | case2 lo hi bound hlt mid hmid hne hless ih => exact ih h
  | case3 lo hi bound hlt mid hmid hne hless ih => exact ih h
  | case4 => cases h

/-- what is in the window is found: the half that is left out holds names on the other side of the middle -/
theorem searchTable_complete {table : Array Registration} (hsorted : Ascending table) {lo hi k : Nat}
    {bound : hi ≤ table.size} (hlo : lo ≤ k) (hhi : k < hi) :
    searchTable table table[k].name lo hi bound = some table[k] := by
  generalize hname : table[k].name = name
  fun_induction searchTable table name lo hi bound with
  | case1 lo hi bound hlt mid hmid heq =>
    rcases Nat.lt_trichotomy mid k with hless | rfl | hgreater
    · exact absurd (hsorted.name_lt hless (hhi.trans_le bound)) (heq ▸ hname ▸ String.lt_irrefl _)
    · rfl
    · exact absurd (hsorted.name_lt hgreater hmid) (heq ▸ hname ▸ String.lt_irrefl _)
  | case2 lo hi bound hlt mid hmid hne hless ih =>
    have hmk : mid < k := Nat.lt_of_not_le fun hkm => hsorted.not_name_lt hkm hmid (hname ▸ hless)
    exact ih hmk hhi hname
  | case3 lo hi bound hlt mid hmid hne hless ih =>
    have hkm : k < mid := by
      refine Nat.lt_of_not_le fun hmk => ?_
      rcases Nat.lt_or_eq_of_le hmk with hmk | rfl
      · exact hless (hname ▸ hsorted.name_lt hmk (hhi.trans_le bound))
      · exact hne hname
    exact ih hlo hkm hname
  | case4 lo hi bound hnot => exact absurd (hlo.trans_lt hhi) hnot

/-- **Searching.** In an ascending table, halving finds what a scan of the whole table finds, for every name. -/
theorem searchTable_eq_find? {table : Array Registration} (hsorted : Ascending table) (name : String) :
    searchTable table name 0 table.size (Nat.le_refl _) = table.toList.find? fun r => r.name = name := by
  cases hfind : table.toList.find? fun r => r.name = name with
  | none =>
    cases hsearch : searchTable table name 0 table.size (Nat.le_refl _) with
    | none => rfl
    | some r =>
      obtain ⟨hmem, hname⟩ := searchTable_sound hsearch
      exact absurd (decide_eq_true hname) (List.find?_eq_none.1 hfind r (Array.mem_toList_iff.2 hmem))
  | some r =>
    have hname : r.name = name := by simpa using List.find?_some hfind
    obtain ⟨k, hk, rfl⟩ := Array.mem_iff_getElem.1 (Array.mem_toList_iff.1 (List.mem_of_find?_eq_some hfind))
    rw [← hname]
    exact searchTable_complete hsorted (Nat.zero_le k) hk

/-! ## Operations that are known -/

namespace Operator

theorem named?_eq_find? (name : String) : named? name = registry.toList.find? fun r => r.name = name :=
  searchTable_eq_find? registry_sorted name

theorem named?_eq_some_iff {name : String} {r : Registration} : named? name = some r ↔ r ∈ registry ∧ r.name = name := by
  refine ⟨searchTable_sound, ?_⟩
  rintro ⟨hmem, rfl⟩
  obtain ⟨k, hk, rfl⟩ := Array.mem_iff_getElem.1 hmem
  exact searchTable_complete registry_sorted (Nat.zero_le k) hk

theorem isSome_named?_iff {name : String} : (named? name).isSome ↔ name ∈ registeredNames := by
  rw [Option.isSome_iff_exists, registeredNames, List.mem_map]
  exact exists_congr fun r => named?_eq_some_iff.trans (and_congr_left' Array.mem_toList_iff.symm)

theorem named?_eq_none_iff {name : String} : named? name = none ↔ name ∉ registeredNames := by
  rw [← isSome_named?_iff, Option.not_isSome_iff_eq_none]

end Operator

theorem nodup_registeredNames : registeredNames.Nodup :=
  registry_sorted.imp fun {a b} (hlt : a < b) (heq : a = b) => String.lt_irrefl b (heq ▸ hlt)

/-! ## Faults of operations that are known -/

namespace Session

variable {σ τ α β : Type}

/-- an action that fails as operations do, in whatever session it is taken -/
def FailsAsOperator (act : SessionM σ τ α) : Prop := ∀ s e, fault? (act s) = some e → e.IsOfOperator

namespace FailsAsOperator

theorem pure (a : α) : FailsAsOperator (pure a : SessionM σ τ α) := nofun

theorem throw {e : RunError} (h : e.IsOfOperator) : FailsAsOperator (throw e : SessionM σ τ α) := by
  intro s e' h'
  cases h'
  exact h

theorem bind {x : SessionM σ τ α} {k : α → SessionM σ τ β} (hx : FailsAsOperator x)
    (hk : ∀ a, FailsAsOperator (k a)) : FailsAsOperator (x >>= k) := by
  intro s e he
  rw [bind_apply] at he
  cases hx' : x s with
  | ok a s₁ => rw [hx'] at he; exact hk a s₁ e he
  | error e' s₁ => rw [hx'] at he; exact hx s e (hx' ▸ he)

theorem both {x y : SessionM σ τ Unit} (hx : FailsAsOperator x) (hy : FailsAsOperator y) :
    FailsAsOperator (both x y) := by
  intro s e he
  rw [fault?_both, Option.or_eq_some_iff] at he
  exact he.elim (hx s e) fun he => hy _ e he.2

theorem invoke (p : Primitive) (act : EStateM String σ α) : FailsAsOperator (invoke p act : SessionM σ τ α) := by
  intro s e he
  rw [fault?_invoke, Option.map_eq_some_iff] at he
  obtain ⟨why, -, rfl⟩ := he
  trivial

theorem handle (name : String) : FailsAsOperator (handle name : SessionM σ τ τ) := by
  intro s e he
  rw [Session.handle] at he
  cases hf : s.bindings.find? name <;> rw [hf] at he <;> cases he
  trivial

theorem decided {x : Except RunError α} (h : Complains x) : FailsAsOperator (decided x : SessionM σ τ α) := by
  cases x with
  | ok a => exact pure a
  | error e => exact throw (.of_complaint h)

variable [Engine σ τ]

theorem literal (l : Literal) : FailsAsOperator (literal l : SessionM σ τ τ) :=
  (invoke _ _).bind fun _ => bind nofun fun _ => (invoke _ _).bind fun _ => pure _

theorem releaseAll (ts : List τ) : FailsAsOperator (releaseAll ts : SessionM σ τ Unit) := by
  induction ts with
  | nil => exact pure ()
  | cons t rest ih => exact (invoke _ _).both ih

/-- looking up operands fails as operations do -/
def lookingUp : Collection (supply : Supply (SessionM σ τ) τ) where
  Yields x _ := FailsAsOperator x
  pure a _ _ := pure a
  throw _ h := throw (.of_complaint h.isComplaint)
  bind := bind
  pair _ _ hx hy _ := hx.bind fun _ => hy.bind fun _ => pure _
  named := handle
  literal := literal

theorem issue (i : Instruction τ) : FailsAsOperator (issue i : SessionM σ τ Unit) := by
  cases i with
  | idle => exact pure ()
  | fill target payload => exact invoke _ _
  | copy source target => exact invoke _ _
  | compute name k => exact invoke _ _

variable [Handle τ]

theorem dispatch (o : Operator) (op : Operation) : FailsAsOperator (dispatch o op : SessionM σ τ Unit) :=
  (decided (Operator.complains_precheck o op)).bind fun _ => (lookingUp.fillSlots op o.signature).bind fun xs =>
    (decided (Operator.complains_plan o op xs)).bind issue

/-- **Operations that are known.** They fail over their kind, an operand, an attribute or something that is not
implemented, over a name without a tensor, or in the engine. -/
theorem perform (o : Operator) (op : Operation) : FailsAsOperator (perform o op : SessionM σ τ Unit) := by
  unfold Session.perform
  split
  · exact (dispatch o op).both fun _ => releaseAll _ _
  · exact throw trivial

end FailsAsOperator

/-! ## Main result -/

section

variable [Engine σ τ] [Handle τ]

theorem performNamed_of_unknown {op : Operation} (h : op.name ∉ registeredNames) (s : Session σ τ) :
    performNamed op s = .error (.unknownOperation op.name) s := by
  rw [performNamed, Operator.named?_eq_none_iff.2 h]
  rfl

/-- only an operation that is not listed fails as an unknown one -/
theorem unknown_of_performNamed {op : Operation} {s s' : Session σ τ} {name : String}
    (h : performNamed op s = .error (.unknownOperation name) s') : op.name ∉ registeredNames := by
  rw [← Operator.named?_eq_none_iff]
  cases hnamed : Operator.named? op.name with
  | none => rfl
  | some r =>
    rw [performNamed, hnamed] at h
    exact (FailsAsOperator.perform r.operator op s _ (congrArg fault? h)).elim

end

/-- **Operations are found by name.** Looking for a name by halving finds what a scan of the table finds, for every
name: the entry of that name if there is one, and nothing if there is none. The listing ascends strictly, and has every
name that can be found once and no other. In a run on any engine, an operation that is reached fails as unknown exactly
if its name is not listed, and then on the spot: the run ends with its own name and in the state in which it was
reached. -/
theorem operations_are_found_by_name :
    (∀ name, Operator.named? name = registry.toList.find? fun r => r.name = name) ∧
    (∀ name r, Operator.named? name = some r ↔ r ∈ registry ∧ r.name = name) ∧
    (∀ name, Operator.named? name = none ↔ name ∉ registeredNames) ∧
    registeredNames.Pairwise (· < ·) ∧
    (∀ name, registeredNames.count name = if (Operator.named? name).isSome then 1 else 0) ∧
    ∀ {σ τ : Type} [Engine σ τ] [Handle τ] (options : RunOptions) (clock : Clock) (g : Graph) (s s' : Session σ τ)
      (index : Nat) (op : Operation), g.operations[index]? = some op → Reaches options g s index s' →
        ((∃ name unknown s'', runGraph options clock g s =
          .error (.operation index name (.unknownOperation unknown)) s'') ↔ op.name ∉ registeredNames) ∧
        (op.name ∉ registeredNames →
          runGraph options clock g s = .error (.operation index op.name (.unknownOperation op.name)) s') := by
  refine ⟨Operator.named?_eq_find?, fun _ _ => Operator.named?_eq_some_iff, fun _ => Operator.named?_eq_none_iff,
    registry_sorted, fun name => ?_, ?_⟩
  · rw [List.Nodup.count nodup_registeredNames]
    simp only [Operator.isSome_named?_iff]
  · intro σ τ _ _ options clock g s s' index op hop hreaches
    have hfails (h : op.name ∉ registeredNames) :
        runGraph options clock g s = .error (.operation index op.name (.unknownOperation op.name)) s' :=
      (runGraph_error_at_iff hop).2 ⟨s', hreaches, performNamed_of_unknown h s', rfl⟩
    refine ⟨⟨?_, fun h => ⟨op.name, op.name, s', hfails h⟩⟩, hfails⟩
    rintro ⟨name, unknown, s'', hrun⟩
    obtain ⟨s₁, -, hperform, -⟩ := (runGraph_error_at_iff hop).1 hrun
    exact unknown_of_performNamed hperform

/-- `log2` is known, `log_2` is not: a run that takes both fails at the second of them -/
theorem operations_are_found_by_name_of_log :
    let op (name : String) : Operation :=
      ((Operation.named name .float).withInput "x" (.identifier "x")).withOutput "y" (.identifier "y")
    let g : Graph := ⟨"g", [op "log2", op "log_2"],
      .ofList [("x", ⟨"x", .float, [2], none⟩), ("y", ⟨"y", .float, [2], none⟩)]⟩
    let s : Session Recorder BufferRef := start .fresh
    Operator.named? "log2" = some ⟨"log2", .unary .float .log2⟩ ∧ Operator.named? "log_2" = none ∧
      ∃ s', Reaches default g s 1 s' ∧
        runGraph default Clock.still g s = .error (.operation 1 "log_2" (.unknownOperation "log_2")) s' := by
  intro op g s
  obtain ⟨-, hfound, hmissing, -, -, hrun⟩ := operations_are_found_by_name
  have hunlisted : "log_2" ∉ registeredNames := by decide +kernel
  refine ⟨(hfound _ _).2 ⟨by decide +kernel, rfl⟩, (hmissing _).2 hunlisted, ?_⟩
  have hbefore : fault? (runGraph default Clock.still { g with operations := g.operations.take 1 } s) = none := by
    decide +kernel
  cases hok : runGraph default Clock.still { g with operations := g.operations.take 1 } s with
  | error e s' => rw [hok] at hbefore; cases hbefore
  | ok figures s' =>
    have hreaches : Reaches default g s 1 s' := (reaches_iff Clock.still).2 ⟨figures, hok⟩
    exact ⟨s', hreaches, (hrun default Clock.still g s s' 1 (op "log_2") rfl hreaches).2 hunlisted⟩

end Session

end TensorGraph
