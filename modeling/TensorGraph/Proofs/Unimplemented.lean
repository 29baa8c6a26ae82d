/-
Operations that are known by name only.

Model: an operation that is not implemented looks up its operands all the same. What it looks up is `visited`:
containers are opened once, so a container in a container is looked up itself, and that is an obstacle. An `obstacle?`
is the fault of looking up one value. The `leaves` of a value are all that is in it at any depth, besides containers.

Main results:
- `decision_unimplemented`: the literals before the first obstacle are needed, and the obstacle is the fault;
- `unimplemented_opens_containers_once`: without containers in containers, the first name that is not bound is the
  fault, and that the operation is not implemented if there is none; a container in a container is a fault of its own.
-/
import Mathlib.Data.List.TakeWhile
import TensorGraph.Proofs.Execution
import TensorGraph.Proofs.References

namespace TensorGraph

/-! ## Model -/

namespace Value

/-- whether a value is an array or a tuple -/
def isContainer : Value → Bool
  | .array _ | .tuple _ => true
  | _ => false

mutual

/-- what is in a value besides containers, depth first and from left to right -/
def leaves : Value → List Value
  | .array items => leavesOfItems items
  | .tuple items => leavesOfItems items
  | v => [v]

def leavesOfItems : List Value → List Value
  | [] => []
  | v :: rest => leaves v ++ leavesOfItems rest

end

end Value

namespace Operation

/-- the leaves of all operands, in the order of the operands -/
def leaves (op : Operation) : List Value := op.operands.flatMap fun e => e.2.leaves

/-- nothing but names and literals is in the operands, at any depth -/
def HoldsTensors (op : Operation) : Prop := ∀ v ∈ op.leaves, v.identifier?.isSome ∨ v.isLiteral = true

/-- the values that are looked up if all operands are, each with the key of its operand -/
def visited (op : Operation) : List (String × Value) :=
  op.operands.flatMap fun e => (Supply.itemsOrSelf e.2).map (Prod.mk e.1)

/-- no container among the operands holds a container -/
def IsShallow (op : Operation) : Prop := ∀ e ∈ op.visited, e.2.isContainer = false

/-- why a value cannot be looked up, if it cannot -/
def obstacle? {τ : Type} (op : Operation) (env : String → Option τ) (e : String × Value) : Option RunError :=
  match e.2.identifier? with
  | some name => if (env name).isSome then none else some (.unboundTensor name)
  | none =>
    if e.2.isLiteral then none
    else some (op.malformed e.1 s!"expected a tensor or literal, found {e.2.sortName}")

/-- the literals among values, up to the first obstacle -/
def supplied {τ : Type} (op : Operation) (env : String → Option τ) (es : List (String × Value)) : List Literal :=
  literalsOf ((es.takeWhile fun e => (op.obstacle? env e).isNone).map Prod.snd)

end Operation

/-! ## Looking up -/

namespace Operation

variable {τ : Type} {op : Operation} {env : String → Option τ} {es fs : List (String × Value)}

/-- without an obstacle, the literals are those of all values -/
theorem supplied_of_clear (h : es.findSome? (op.obstacle? env) = none) :
    op.supplied env es = literalsOf (es.map Prod.snd) := by
  have hall : es.takeWhile (fun e => (op.obstacle? env e).isNone) = es := List.takeWhile_eq_self_iff.2 fun e he => by
    rw [List.findSome?_eq_none_iff.1 h e he]
    rfl
  rw [supplied, hall]

theorem supplied_append_of_clear (h : es.findSome? (op.obstacle? env) = none) :
    op.supplied env (es ++ fs) = op.supplied env es ++ op.supplied env fs := by
  rw [supplied_of_clear h, supplied, List.takeWhile_append_of_pos, List.map_append, literalsOf, List.filterMap_append]
  · rfl
  · intro e he
    rw [List.findSome?_eq_none_iff.1 h e he]
    rfl

theorem supplied_append_of_obstacle {e : RunError} (h : es.findSome? (op.obstacle? env) = some e) :
    op.supplied env (es ++ fs) = op.supplied env es := by
  obtain ⟨before, entry, after, rfl, hentry, hbefore⟩ := List.findSome?_eq_some_iff.1 h
  have hpass : ∀ e' ∈ before, (op.obstacle? env e').isNone = true := fun e' he' => by rw [hbefore e' he']; rfl
  have hstop : ∀ rest, (entry :: rest).takeWhile (fun e' => (op.obstacle? env e').isNone) = [] := fun rest =>
    List.takeWhile_cons_of_neg (by rw [hentry]; exact nofun)
  rw [supplied, supplied, List.append_assoc, List.takeWhile_append_of_pos hpass, List.takeWhile_append_of_pos hpass,
    List.cons_append, hstop, hstop]

end Operation

namespace Lookup

variable {τ α β γ : Type}

/-- a look-up of values: it fails over the first obstacle, and has then seen the literals before it -/
def Visits (op : Operation) (env : String → Option τ) (x : Lookup α) (es : List (String × Value)) : Prop :=
  ∀ seen, fault? (x seen) = es.findSome? (op.obstacle? env) ∧ reached (x seen) = seen ++ op.supplied env es

variable {op : Operation} {env : String → Option τ}

namespace Visits

theorem pure (a : α) : Visits op env (pure a) [] := fun seen => ⟨rfl, (List.append_nil seen).symm⟩

/-- one look-up and then another, and their results put together -/
theorem pair {x : Lookup α} {y : Lookup β} {es fs : List (String × Value)} (hx : Visits op env x es)
    (hy : Visits op env y fs) (c : α → β → γ) : Visits op env (do let a ← x; let b ← y; return c a b) (es ++ fs) := by
  intro seen
  obtain ⟨hfault, hseen⟩ := hx seen
  rw [List.findSome?_append, bind_apply]
  cases hx' : x seen with
  | error e all =>
    rw [hx'] at hfault hseen
    rw [← hfault, Operation.supplied_append_of_obstacle hfault.symm]
    exact ⟨rfl, hseen⟩
  | ok a all =>
    rw [hx'] at hfault hseen
    rw [← hfault, Operation.supplied_append_of_clear hfault.symm, ← List.append_assoc, ← hseen]
    have h := hy all
    dsimp only
    rw [bind_apply]
    cases hy' : y all with
    | error e all' => rw [hy'] at h; exact h
    | ok b all' => rw [hy'] at h; exact h

end Visits

theorem visits_resolve (key : String) (v : Value) : Visits op env ((supply env).resolve op key v) [(key, v)] := by
  intro seen
  cases v with
  | identifier name =>
    rw [Supply.resolve, supply_named]
    cases ht : env name <;> simp [Operation.obstacle?, Operation.supplied, Value.identifier?, ht, literalsOf,
      Value.literal?]
  | scalar x => exact ⟨rfl, rfl⟩
  | integer n => exact ⟨rfl, rfl⟩
  | logical b => exact ⟨rfl, rfl⟩
  | string text => exact ⟨rfl, (List.append_nil seen).symm⟩
  | array items => exact ⟨rfl, (List.append_nil seen).symm⟩
  | tuple items => exact ⟨rfl, (List.append_nil seen).symm⟩

theorem visits_resolveItems (key : String) (items : List Value) :
    Visits op env ((supply env).resolveItems op key items) (items.map (Prod.mk key)) := by
  induction items with
  | nil => exact .pure _
  | cons v rest ih => exact (visits_resolve key v).pair ih _

theorem visits_resolveOperands (operands : List (String × Value)) :
    Visits op env ((supply env).resolveOperands op operands)
      (operands.flatMap fun e => (Supply.itemsOrSelf e.2).map (Prod.mk e.1)) := by
  induction operands with
  | nil => exact .pure _
  | cons e rest ih => exact (visits_resolveItems e.1 _).pair ih _

end Lookup

/-- **Deciding what is not implemented.** The literals before the first obstacle are needed, and the obstacle is the
fault; without one, it is that the operation is not implemented. -/
theorem decision_unimplemented {τ : Type} [Handle τ] (env : String → Option τ) (op : Operation) :
    Operator.unimplemented.decision env op = ⟨op.supplied env op.visited,
      .error ((op.visited.findSome? (op.obstacle? env)).getD (op.unsupported "operation not implemented"))⟩ := by
  have h : Lookup.Visits op env ((Lookup.supply env).fillSlots op [.everything]) op.visited := by
    have hoperands : Lookup.Visits op env _ op.visited := Lookup.visits_resolveOperands op.operands
    have h := hoperands.pair (.pure ()) Prod.mk
    rwa [List.append_nil] at h
  obtain ⟨hfault, hseen⟩ := h []
  unfold Operator.decision
  dsimp only [Operator.precheck, Operator.signature]
  cases hf : (Lookup.supply env).fillSlots op [.everything] [] with
  | error e seen =>
    rw [hf] at hfault hseen
    rw [← hfault]
    exact congrArg (Decision.mk · _) hseen
  | ok xs seen =>
    rw [hf] at hfault hseen
    rw [← hfault]
    exact congrArg (Decision.mk · _) hseen

/-! ## Leaves -/

namespace Value

theorem leavesOfItems_eq_flatMap (items : List Value) : leavesOfItems items = items.flatMap leaves := by
  induction items with
  | nil => rfl
  | cons v rest ih => rw [leavesOfItems, ih, List.flatMap_cons]

theorem leaves_of_not_container {v : Value} (h : v.isContainer = false) : v.leaves = [v] := by
  cases v <;> first | rfl | cases h

theorem leaves_itemsOrSelf (v : Value) : (Supply.itemsOrSelf v).flatMap leaves = v.leaves := by
  cases v with
  | array items => exact (leavesOfItems_eq_flatMap items).symm
  | tuple items => exact (leavesOfItems_eq_flatMap items).symm
  | _ => rfl

mutual

/-- the names in a value are those among its leaves -/
theorem identifiers_leaves (v : Value) : v.leaves.filterMap identifier? = v.identifiers := by
  cases v with
  | array items => exact identifiers_leavesOfItems items
  | tuple items => exact identifiers_leavesOfItems items
  | _ => rfl

theorem identifiers_leavesOfItems (items : List Value) :
    (leavesOfItems items).filterMap identifier? = identifiersOfItems items := by
  cases items with
  | nil => rfl
  | cons v rest =>
    rw [leavesOfItems, List.filterMap_append, identifiers_leaves v, identifiers_leavesOfItems rest, identifiersOfItems]

end

end Value

namespace Operation

variable {op : Operation}

theorem identifiers_leaves (op : Operation) : op.leaves.filterMap Value.identifier? = op.identifiers := by
  simp only [leaves, identifiers, List.filterMap_flatMap, Value.identifiers_leaves]

/-- what is looked up has the leaves of the operands -/
theorem leaves_visited (op : Operation) : op.visited.flatMap (fun e => e.2.leaves) = op.leaves := by
  simp only [visited, leaves, List.flatMap_assoc, List.flatMap_map, Value.leaves_itemsOrSelf]

/-- without containers in containers, the leaves are what is looked up -/
theorem leaves_of_shallow (h : op.IsShallow) : op.leaves = op.visited.map Prod.snd := by
  rw [← leaves_visited, ← List.flatMap_singleton' (op.visited.map Prod.snd), List.flatMap_map]
  exact List.flatMap_congr fun e he => Value.leaves_of_not_container (h e he)

/-- among names and literals, the first name without a tensor is the first obstacle -/
theorem findSome?_obstacle_of_names {τ : Type} {env : String → Option τ} {es : List (String × Value)}
    (h : ∀ e ∈ es, e.2.identifier?.isSome ∨ e.2.isLiteral = true) : es.findSome? (op.obstacle? env) =
      (((es.map Prod.snd).filterMap Value.identifier?).find? fun name => !(env name).isSome).map .unboundTensor := by
  induction es with
  | nil => rfl
  | cons e rest ih =>
    have hrest := ih fun e' he' => h e' (List.mem_cons_of_mem _ he')
    rw [List.findSome?_cons, List.map_cons, List.filterMap_cons, hrest, obstacle?]
    cases hv : e.2.identifier? with
    | some name =>
      dsimp only
      rw [List.find?_cons]
      cases (env name).isSome <;> rfl
    | none =>
      have hliteral : e.2.isLiteral = true := by
        rcases h e List.mem_cons_self with hsome | hliteral
        · rw [hv] at hsome
          cases hsome
        · exact hliteral
      dsimp only
      rw [if_pos hliteral]

/-- **Operands without containers in containers.** The first name without a tensor is the obstacle, in the order in
which all names are listed, and nothing else is one. -/
theorem obstacle_of_shallow {τ : Type} {env : String → Option τ} (hholds : op.HoldsTensors) (hshallow : op.IsShallow) :
    op.visited.findSome? (op.obstacle? env) =
      (op.identifiers.find? fun name => !(env name).isSome).map .unboundTensor := by
  rw [← identifiers_leaves, leaves_of_shallow hshallow]
  refine findSome?_obstacle_of_names fun e he => hholds e.2 ?_
  rw [leaves_of_shallow hshallow]
  exact List.mem_map_of_mem he

theorem obstacle?_of_container {τ : Type} {env : String → Option τ} {e : String × Value} (h : e.2.isContainer = true) :
    op.obstacle? env e =
      some (.malformedOperand op.name e.1 s!"expected a tensor or literal, found {e.2.sortName}") := by
  obtain ⟨key, v⟩ := e
  cases v <;> first | rfl | cases h

/-- a name that has a tensor, or a literal -/
theorem obstacle?_of_tensor {τ : Type} {env : String → Option τ} {e : String × Value}
    (htensor : e.2.identifier?.isSome ∨ e.2.isLiteral = true)
    (hbound : ∀ name, e.2.identifier? = some name → (env name).isSome = true) : op.obstacle? env e = none := by
  rw [obstacle?]
  cases hv : e.2.identifier? with
  | some name => exact if_pos (hbound name hv)
  | none =>
    rw [hv] at htensor
    exact if_pos (htensor.resolve_left nofun)

/-- **Operands all of whose names have tensors.** The first container in a container is the obstacle, and nothing else
is one. -/
theorem obstacle_of_bound {τ : Type} {env : String → Option τ} (hholds : op.HoldsTensors)
    (hbound : ∀ name ∈ op.identifiers, (env name).isSome = true) : op.visited.findSome? (op.obstacle? env) =
      (op.visited.find? fun e => e.2.isContainer).map fun e =>
        .malformedOperand op.name e.1 s!"expected a tensor or literal, found {e.2.sortName}" := by
  have htensor : ∀ e ∈ op.visited, e.2.isContainer = false → op.obstacle? env e = none := by
    intro e he hleaf
    have hmem : e.2 ∈ op.leaves := by
      rw [← leaves_visited]
      exact List.mem_flatMap.2 ⟨e, he, by rw [Value.leaves_of_not_container hleaf]; exact List.mem_singleton_self _⟩
    refine obstacle?_of_tensor (hholds e.2 hmem) fun name hname => hbound name ?_
    rw [← identifiers_leaves]
    exact List.mem_filterMap.2 ⟨e.2, hmem, hname⟩
  generalize op.visited = es at htensor
  induction es with
  | nil => rfl
  | cons e rest ih =>
    have hrest := ih fun e' he' => htensor e' (List.mem_cons_of_mem _ he')
    rw [List.findSome?_cons, List.find?_cons]
    cases hcontainer : e.2.isContainer with
    | true => rw [obstacle?_of_container hcontainer]; rfl
    | false => rw [htensor e List.mem_cons_self hcontainer, hrest]

end Operation

/-! ## Performing -/

open Session in
/-- **Operations that are not implemented.** On a recorder without failures, whatever happened before, such an operation
fails over the first obstacle among its operands, and as not implemented if there is none. The literals before it were
stored, and their tensors are released again; nothing else is asked of the engine, and nothing is changed.

Let the operands hold only names and literals. If no container holds a container, then the fault is over the first name
that is not bound, in the order in which all names are listed, or else that the operation is not implemented, and then
all literals were stored. If all names are bound, then the fault is over the first container in a container, and that
the operation is not implemented if there is none. -/
theorem unimplemented_opens_containers_once {op : Operation} (hconcrete : op.dtype.isConcrete = true)
    (history : List Step) :
    let s := (fresh none).after history
    let fault := fault? (perform .unimplemented op s)
    let s' := reached (perform .unimplemented op s)
    let ls := op.supplied s.bindings.find? op.visited
    let unimplemented := RunError.unsupportedOperation op.name "operation not implemented"
    (fault = some ((op.visited.findSome? (op.obstacle? s.bindings.find?)).getD unimplemented) ∧
      s'.engine.log.toList = s.engine.log.toList ++ literalCalls s.engine.buffers.size ls ++
        (List.range' s.engine.buffers.size ls.length).map Call.release ∧
      (∀ id, s'.engine.data? id = s.engine.data? id) ∧
      s'.bindings = s.bindings ∧ s'.reserved = s.reserved ∧ s'.scratch = []) ∧
    (op.HoldsTensors → op.IsShallow →
      fault = some (((op.identifiers.find? fun name => !s.isBound name).map .unboundTensor).getD unimplemented) ∧
      ((∀ name ∈ op.identifiers, s.isBound name = true) → fault = some unimplemented ∧ ls = literalsOf op.leaves)) ∧
    (op.HoldsTensors → (∀ name ∈ op.identifiers, s.isBound name = true) →
      fault = some (((op.visited.find? fun e => e.2.isContainer).map fun e =>
        .malformedOperand op.name e.1 s!"expected a tensor or literal, found {e.2.sortName}").getD unimplemented)) := by
  intro s fault s' ls unimplemented
  obtain ⟨hcoupled, hscratch⟩ := coupled_after none history
  obtain ⟨-, hbindings, hreserved, hempty⟩ := perform_keeps Custody.any .unimplemented op (s := s) trivial
  obtain ⟨u, hperform, hlog, hdata⟩ :=
    perform_of_decided hscratch hcoupled.failOn_eq hconcrete (decision_unimplemented s.bindings.find? op)
  have hfault : fault = some ((op.visited.findSome? (op.obstacle? s.bindings.find?)).getD unimplemented) :=
    congrArg fault? hperform
  have hreached : s' = u := congrArg reached hperform
  refine ⟨⟨hfault, hreached ▸ hlog, hreached ▸ hdata, hbindings, hreserved, hempty hscratch⟩,
    fun hholds hshallow => ?_, fun hholds hbound => ?_⟩
  · have hobstacle : op.visited.findSome? (op.obstacle? s.bindings.find?) = _ :=
      Operation.obstacle_of_shallow hholds hshallow
    refine ⟨hobstacle ▸ hfault, fun hbound => ?_⟩
    have hnone : op.identifiers.find? (fun name => !s.isBound name) = none :=
      List.find?_eq_none.2 fun name hname => by simp [hbound name hname]
    have hclear := hobstacle.trans (congrArg (Option.map RunError.unboundTensor) hnone)
    refine ⟨?_, ?_⟩
    · rw [hfault, hclear]
      rfl
    · rw [show ls = op.supplied _ _ from rfl, Operation.supplied_of_clear hclear, Operation.leaves_of_shallow hshallow]
  · rw [hfault, Operation.obstacle_of_bound hholds hbound]

open Session in
/-- a name and a literal in an array, which are looked up, and a tuple in an array, which is not opened -/
theorem unimplemented_opens_containers_once_of_two :
    let history : List Step := [.create ⟨"x", .float, [2], none⟩]
    let op := (Operation.named "l2_normalization" .float).withOutput "output" (.identifier "x")
    let shallow := op.withInput "input" (.array [.identifier "x", .integer 3])
    let nested := op.withInput "input" (.array [.integer 3, .tuple [.identifier "x"]])
    let s := (fresh none).after history
    shallow.dtype.isConcrete = true ∧ shallow.HoldsTensors ∧ shallow.IsShallow ∧
      (∀ name ∈ shallow.identifiers, s.isBound name = true) ∧
      fault? (perform .unimplemented shallow s) =
        some (.unsupportedOperation "l2_normalization" "operation not implemented") ∧
      (reached (perform .unimplemented shallow s)).engine.log.toList =
        s.engine.log.toList ++ literalCalls 1 [.integer 3] ++ [.release 1] ∧
      nested.dtype.isConcrete = true ∧ nested.HoldsTensors ∧
      (∀ name ∈ nested.identifiers, s.isBound name = true) ∧
      fault? (perform .unimplemented nested s) =
        some (.malformedOperand "l2_normalization" "input" "expected a tensor or literal, found tuple") := by
  intro history op shallow nested s
  have hconcrete : shallow.dtype.isConcrete = true := rfl
  have hconcrete' : nested.dtype.isConcrete = true := rfl
  have hholds : shallow.HoldsTensors := by
    unfold Operation.HoldsTensors
    decide +kernel
  have hshallow : shallow.IsShallow := by
    unfold Operation.IsShallow
    decide +kernel
  have hbound : ∀ name ∈ shallow.identifiers, s.isBound name = true := by decide +kernel
  have hholds' : nested.HoldsTensors := by
    unfold Operation.HoldsTensors
    decide +kernel
  have hbound' : ∀ name ∈ nested.identifiers, s.isBound name = true := by decide +kernel
  obtain ⟨⟨-, hlog, -⟩, hall, -⟩ := unimplemented_opens_containers_once hconcrete history
  obtain ⟨-, -, hnested⟩ := unimplemented_opens_containers_once hconcrete' history
  obtain ⟨hfault, hls⟩ := (hall hholds hshallow).2 hbound
  have hleaves : literalsOf shallow.leaves = [.integer 3] := by decide +kernel
  have hsize : s.engine.buffers.size = 1 := by decide +kernel
  refine ⟨hconcrete, hholds, hshallow, hbound, hfault, ?_, hconcrete', hholds', hbound', ?_⟩
  · rw [hls, hleaves, hsize] at hlog
    exact hlog
  · have hfirst : nested.visited.find? (fun e => e.2.isContainer) = some ("input", .tuple [.identifier "x"]) := by
      decide +kernel
    rw [hnested hholds' hbound', hfirst]
    decide +kernel

open Session in
/-- an array in an array that holds nothing but the name of a bound tensor: the operation is not reported as not
implemented -/
theorem nested_operand_is_malformed :
    let s := (fresh none).after [.create ⟨"x", .float, [4], none⟩]
    let op := ((Operation.named "l2_normalization" .float).withInput "input"
      (.array [.array [.identifier "x"]])).withOutput "output" (.identifier "x")
    op.leaves = [.identifier "x", .identifier "x"] ∧ s.isBound "x" = true ∧
      Operator.named? op.name = some ⟨"l2_normalization", .unimplemented⟩ ∧
      fault? (performNamed op s) =
        some (.malformedOperand "l2_normalization" "input" "expected a tensor or literal, found array") ∧
      fault? (performNamed op s) ≠ some (.unsupportedOperation "l2_normalization" "operation not implemented") := by
  intro s op
  have hleaves : op.leaves = [.identifier "x", .identifier "x"] := by decide +kernel
  have hfault : fault? (performNamed op s) =
      some (.malformedOperand "l2_normalization" "input" "expected a tensor or literal, found array") := by
    decide +kernel
  refine ⟨hleaves, by decide +kernel, by decide +kernel, hfault, ?_⟩
  rw [hfault]
  nofun

end TensorGraph
