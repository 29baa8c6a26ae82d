/-
Which names an operation depends on.

Model: looking up operands asks for the names that the operands mention and for no others, so two ways of giving tensors
to names that agree on these give the same operands.

Main results:
- `decision_congr`: an operation depends on the tensors of the names that it mentions, and on no others;
- `complaint_of_decision`: if all of these names have tensors, an operation that fails has itself to complain about.
-/
import TensorGraph.Proofs.Decision

namespace TensorGraph

/-! ## Model -/

/-- two ways of giving tensors to names that agree on some names -/
def AgreeOn {τ : Type} (names : List String) (env env' : String → Option τ) : Prop :=
  ∀ name ∈ names, env name = env' name

/-- the names that are looked up for a slot -/
def Slot.names (op : Operation) (slot : Slot) : List String := (slot.values op).flatMap Value.identifiers

namespace AgreeOn

variable {τ : Type} {names more : List String} {env env' : String → Option τ}

theorem mono (h : AgreeOn names env env') (hsub : more ⊆ names) : AgreeOn more env env' :=
  fun name hname => h name (hsub hname)

theorem left (h : AgreeOn (names ++ more) env env') : AgreeOn names env env' := h.mono (List.subset_append_left _ _)

theorem right (h : AgreeOn (names ++ more) env env') : AgreeOn more env env' := h.mono (List.subset_append_right _ _)

/-! ## Looking up on paper -/

theorem resolve {v : Value} (h : AgreeOn v.identifiers env env') (op : Operation) (key : String) :
    (Lookup.supply env).resolve op key v = (Lookup.supply env').resolve op key v := by
  unfold Supply.resolve
  split
  · refine funext fun seen => ?_
    rw [Lookup.supply_named, Lookup.supply_named, h _ List.mem_cons_self]
  · rfl

theorem resolveItems {items : List Value} (h : AgreeOn (items.flatMap Value.identifiers) env env') (op : Operation)
    (key : String) : (Lookup.supply env).resolveItems op key items = (Lookup.supply env').resolveItems op key items := by
  induction items with
  | nil => rfl
  | cons v rest ih =>
    rw [List.flatMap_cons] at h
    rw [Supply.resolveItems, Supply.resolveItems, h.left.resolve, ih h.right]

theorem resolveList {v : Value} (h : AgreeOn ((v.array?.getD []).flatMap Value.identifiers) env env') (op : Operation)
    (key : String) : (Lookup.supply env).resolveList op key v = (Lookup.supply env').resolveList op key v := by
  unfold Supply.resolveList
  cases hv : v.array? with
  | none => rfl
  | some items =>
    rw [hv] at h
    exact h.resolveItems op key

theorem resolveOperands {operands : List (String × Value)}
    (h : AgreeOn ((operands.flatMap fun e => Supply.itemsOrSelf e.2).flatMap Value.identifiers) env env')
    (op : Operation) :
    (Lookup.supply env).resolveOperands op operands = (Lookup.supply env').resolveOperands op operands := by
  induction operands with
  | nil => rfl
  | cons e rest ih =>
    rw [List.flatMap_cons, List.flatMap_append] at h
    rw [Supply.resolveOperands, Supply.resolveOperands, h.left.resolveItems, ih h.right]

theorem fillSlot {op : Operation} {slot : Slot} (h : AgreeOn (slot.names op) env env') :
    (Lookup.supply env).fillSlot op slot = (Lookup.supply env').fillSlot op slot := by
  unfold Slot.names at h
  have hsingle : ∀ {key : String} {v : Value}, AgreeOn ([v].flatMap Value.identifiers) env env' →
      (Lookup.supply env).resolve op key v = (Lookup.supply env').resolve op key v :=
    fun h => AgreeOn.resolve (h.mono (by simp)) op _
  cases slot with
  | input key =>
    rw [Slot.values] at h
    rw [Supply.fillSlot, Supply.fillSlot]
    cases hv : op.input? key with
    | none => rfl
    | some v => rw [hv] at h; exact hsingle h
  | output key =>
    rw [Slot.values] at h
    rw [Supply.fillSlot, Supply.fillSlot]
    cases hv : op.output? key with
    | none => rfl
    | some v => rw [hv] at h; exact hsingle h
  | «optional» key fallback => exact hsingle h
  | inputList key =>
    rw [Slot.values] at h
    rw [Supply.fillSlot, Supply.fillSlot]
    cases hv : op.input? key with
    | none => rfl
    | some v => rw [hv] at h; exact AgreeOn.resolveList h op key
  | outputList key =>
    rw [Slot.values] at h
    rw [Supply.fillSlot, Supply.fillSlot]
    cases hv : op.output? key with
    | none => rfl
    | some v => rw [hv] at h; exact AgreeOn.resolveList h op key
  | everything => exact h.resolveOperands op

theorem fillSlots {op : Operation} {slots : List Slot} (h : AgreeOn (slots.flatMap (Slot.names op)) env env') :
    (Lookup.supply env).fillSlots op slots = (Lookup.supply env').fillSlots op slots := by
  induction slots with
  | nil => rfl
  | cons slot rest ih =>
    rw [List.flatMap_cons] at h
    rw [Supply.fillSlots, Supply.fillSlots, h.left.fillSlot, ih h.right]

end AgreeOn

/-! ## The names of an operation -/

theorem identifiers_itemsOrSelf (v : Value) : (Supply.itemsOrSelf v).flatMap Value.identifiers = v.identifiers := by
  cases v with
  | array items => exact (Value.identifiersOfItems_eq_flatMap items).symm
  | tuple items => exact (Value.identifiersOfItems_eq_flatMap items).symm
  | _ => exact List.append_nil _

theorem identifiers_array? (v : Value) : (v.array?.getD []).flatMap Value.identifiers ⊆ v.identifiers := by
  cases v with
  | array items =>
    rw [Value.identifiers, Value.identifiersOfItems_eq_flatMap]
    exact List.Subset.refl _
  | _ => exact List.nil_subset _

namespace Operation

variable (op : Operation)

theorem identifiers_input? {key : String} {v : Value} (h : op.input? key = some v) :
    v.identifiers ⊆ op.identifiers := fun _ hname =>
  List.mem_flatMap.2 ⟨(key, v), List.mem_append_left _ (NameMap.mem_entries_iff.2 h), hname⟩

theorem identifiers_output? {key : String} {v : Value} (h : op.output? key = some v) :
    v.identifiers ⊆ op.identifiers := fun _ hname =>
  List.mem_flatMap.2 ⟨(key, v), List.mem_append_right _ (NameMap.mem_entries_iff.2 h), hname⟩

end Operation

/-- a value for a missing input mentions no name -/
theorem identifiers_fallback {o : Operator} {key : String} {fallback : Value}
    (h : .optional key fallback ∈ o.signature) : fallback.identifiers = [] := by
  cases o <;> simp [Operator.signature, Slot.bias] at h <;> rw [h.2] <;> rfl

/-- the operands of an operator mention names of the operation only -/
theorem names_subset (o : Operator) (op : Operation) : o.signature.flatMap (Slot.names op) ⊆ op.identifiers := by
  intro name hname
  obtain ⟨slot, hslot, hname⟩ := List.mem_flatMap.1 hname
  unfold Slot.names at hname
  cases slot with
  | input key =>
    obtain ⟨v, hv, hname⟩ := List.mem_flatMap.1 hname
    exact op.identifiers_input? (Option.mem_toList.1 hv) hname
  | output key =>
    obtain ⟨v, hv, hname⟩ := List.mem_flatMap.1 hname
    exact op.identifiers_output? (Option.mem_toList.1 hv) hname
  | «optional» key fallback =>
    rw [Slot.values, List.flatMap_singleton] at hname
    cases hv : op.input? key with
    | some v => rw [hv] at hname; exact op.identifiers_input? hv hname
    | none =>
      rw [hv, Option.getD_none, identifiers_fallback hslot] at hname
      cases hname
  | inputList key =>
    rw [Slot.values] at hname
    cases hv : op.input? key with
    | none => rw [hv] at hname; cases hname
    | some v => rw [hv] at hname; exact op.identifiers_input? hv (identifiers_array? v hname)
  | outputList key =>
    rw [Slot.values] at hname
    cases hv : op.output? key with
    | none => rw [hv] at hname; cases hname
    | some v => rw [hv] at hname; exact op.identifiers_output? hv (identifiers_array? v hname)
  | everything =>
    rw [Slot.values, List.flatMap_assoc] at hname
    simpa only [identifiers_itemsOrSelf, Operation.identifiers] using hname

/-! ## Decisions -/

section

variable {τ : Type} [Handle τ] {o : Operator} {op : Operation} {env env' : String → Option τ}

/-- an operation depends on the tensors of the names that it mentions, and on no others -/
theorem decision_congr (h : AgreeOn op.identifiers env env') : o.decision env op = o.decision env' op := by
  unfold Operator.decision
  rw [(h.mono (names_subset o op)).fillSlots]

/-- an operation all of whose names have tensors fails for a reason of its own, if it fails -/
theorem complaint_of_decision [Inhabited τ] {e : RunError} (hknown : ∀ name ∈ op.identifiers, (env name).isSome)
    (h : (o.decision env op).outcome = .error e) : e.IsComplaint := by
  -- the operation cannot tell if the unknown names have tensors too, and then there is none to miss
  have hagree : AgreeOn op.identifiers env fun name => some ((env name).getD default) := fun name hname => by
    obtain ⟨t, ht⟩ := Option.isSome_iff_exists.1 (hknown name hname)
    simp only [ht, Option.getD_some]
  rw [decision_congr hagree] at h
  rcases fault_of_decision h with hcomplaint | ⟨name, hmissing, -⟩
  · exact hcomplaint
  · cases hmissing

end

end TensorGraph
