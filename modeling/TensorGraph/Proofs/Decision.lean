/-
What an operation does, decided before it does anything.

Model: an operation only needs to know which tensors the names of its operands stand for. With this alone,
`Operator.decision` finds the literals that are needed, in order, and either the one request to the engine or the fault.
Literals are numbered, since their tensors do not exist yet.

Main results:
- `decision_map`: a decision does not look at the tensors, only at their kinds and shapes;
- `literals_of_decision`: an operation that comes to a request needs exactly the literals among its operands.
-/
import TensorGraph.Proofs.Outcome
import TensorGraph.Proofs.Supply

namespace TensorGraph

/-! ## Operands -/

/-- what an operand stands for: a bound tensor, or a literal, numbered among the literals of its operation -/
inductive Operand (τ : Type)
  | bound (t : τ)
  | literal (number : Nat) (l : Literal)
deriving DecidableEq, Repr

namespace Operand

variable {τ υ : Type}

instance [Handle τ] : Handle (Operand τ) where
  kind
    | .bound t => Handle.kind t
    | .literal _ l => l.kind
  shape
    | .bound t => Handle.shape t
    | .literal _ _ => []

/-- the same operand on other tensors -/
def map (f : τ → υ) : Operand τ → Operand υ
  | .bound t => .bound (f t)
  | .literal number l => .literal number l

theorem sameView_map [Handle τ] [Handle υ] {f : τ → υ} (hf : SameView f) : SameView (map f) where
  kind
    | .bound t => hf.kind t
    | .literal _ _ => rfl
  shape
    | .bound t => hf.shape t
    | .literal _ _ => rfl

end Operand

/-- looking up on paper: nothing changes but the literals seen so far -/
abbrev Lookup := EStateM RunError (List Literal)

namespace Lookup

variable {τ υ α β : Type}

/-- the operand of a name -/
def named (env : String → Option τ) (name : String) : Lookup (Operand τ) := fun seen =>
  match env name with
  | some t => .ok (.bound t) seen
  | none => .error (.unboundTensor name) seen

/-- the next literal -/
def literal (l : Literal) : Lookup (Operand τ) := fun seen => .ok (.literal seen.length l) (seen ++ [l])

def supply (env : String → Option τ) : Supply Lookup (Operand τ) := ⟨named env, literal⟩

theorem supply_named (env : String → Option τ) (name : String) (seen : List Literal) :
    (supply env).named name seen = match env name with
      | some t => .ok (.bound t) seen
      | none => .error (.unboundTensor name) seen := rfl

end Lookup

/-! ## Decisions -/

/-- the literals that an operation needs, and what it then asks of the engine or why it does not -/
structure Decision (τ : Type) where
  literals : List Literal
  outcome : Except RunError (Instruction (Operand τ))

/-- the same decision on other tensors -/
def Decision.map {τ υ : Type} (f : τ → υ) (d : Decision τ) : Decision υ :=
  ⟨d.literals, d.outcome.map (Instruction.map (Operand.map f))⟩

/-- decide an operation, given which tensors its names stand for -/
def Operator.decision {τ : Type} [Handle τ] (o : Operator) (env : String → Option τ) (op : Operation) : Decision τ :=
  match o.precheck op with
  | .error e => ⟨[], .error e⟩
  | .ok () =>
    match (Lookup.supply env).fillSlots op o.signature [] with
    | .error e seen => ⟨seen, .error e⟩
    | .ok xs seen => ⟨seen, o.plan op xs⟩

/-! ## Decisions do not look at tensors -/

namespace Lookup

variable {τ υ : Type}

/-- looking up on other tensors -/
def translation (f : τ → υ) (env : String → Option τ) :
    Translation (supply env) (supply fun name => (env name).map f) (Operand.map f) where
  Rel g x x' := ∀ seen, x' seen = mapResult g id (x seen)
  pure _ _ _ := rfl
  throw _ _ _ _ := rfl
  bind {_ _ _ _} {g h x x' k k'} hx hk seen := by
    rw [bind_apply, bind_apply, hx]
    cases x seen with
    | error e seen => rfl
    | ok a seen => exact hk a seen
  named name seen := by
    rw [supply_named, supply_named]
    cases env name <;> rfl
  literal _ _ := rfl

end Lookup

/-- changing tensors, but not their kinds and shapes, changes the tensors of a decision and nothing else -/
theorem decision_map {τ υ : Type} [Handle τ] [Handle υ] {f : τ → υ} (hf : SameView f) (o : Operator)
    (env : String → Option τ) (op : Operation) :
    o.decision (fun name => (env name).map f) op = (o.decision env op).map f := by
  unfold Operator.decision
  cases o.precheck op with
  | error e => rfl
  | ok u =>
    dsimp only
    rw [(Lookup.translation f env).fillSlots op o.signature []]
    cases (Lookup.supply env).fillSlots op o.signature [] with
    | error e seen => rfl
    | ok xs seen =>
      dsimp only [mapResult_ok]
      rw [plan_map (Operand.sameView_map hf)]
      rfl

/-! ## Operands and faults of a decision -/

/-- an operand that was looked up: bound to some name, or a literal under its number -/
def Operand.IsFound {τ : Type} (env : String → Option τ) (seen : List Literal) : Operand τ → Prop
  | .bound t => ∃ name, env name = some t
  | .literal number l => seen[number]? = some l

theorem Operand.IsFound.mono {τ : Type} {env : String → Option τ} {seen all : List Literal} (h : seen <+: all)
    {x : Operand τ} (hx : x.IsFound env seen) : x.IsFound env all := by
  cases x with
  | bound t => exact hx
  | literal number l =>
    obtain ⟨rest, rfl⟩ := h
    obtain ⟨hlt, -⟩ := List.getElem?_eq_some_iff.1 hx
    exact (List.getElem?_append_left hlt).trans hx

namespace Lookup

variable {τ : Type}

/-- what looking up comes to: operands that were found, or a complaint, or a name that is missed -/
def finding (env : String → Option τ) : Collection (supply env) where
  Yields {α} x handles := ∀ seen, seen <+: reached ((x : Lookup α) seen) ∧ match (x : Lookup α) seen with
    | .ok a all => ∀ t ∈ handles a, t.IsFound env all
    | .error e _ => e.IsComplaintIf False ∨ ∃ name, env name = none ∧ e = .unboundTensor name
  pure a _ h seen := ⟨List.prefix_refl _, fun t ht => by rw [h] at ht; cases ht⟩
  throw _ he seen := ⟨List.prefix_refl _, Or.inl he⟩
  bind {_ _ x k _ _} hx hk seen := by
    obtain ⟨h₁, h₂⟩ := hx seen
    rw [bind_apply]
    cases hxs : x seen with
    | error e all => rw [hxs] at h₁ h₂; exact ⟨h₁, h₂⟩
    | ok a all => rw [hxs] at h₁; exact ⟨h₁.trans (hk a all).1, (hk a all).2⟩
  pair {_ _ _ x y f g} c _ hx hy hh seen := by
    obtain ⟨h₁, h₂⟩ := hx seen
    rw [bind_apply]
    cases hxs : x seen with
    | error e all => rw [hxs] at h₁ h₂; exact ⟨h₁, h₂⟩
    | ok a all =>
      rw [hxs] at h₁ h₂
      obtain ⟨h₃, h₄⟩ := hy all
      dsimp only
      rw [bind_apply]
      cases hys : y all with
      | error e all' => rw [hys] at h₃ h₄; exact ⟨h₁.trans h₃, h₄⟩
      | ok b all' =>
        rw [hys] at h₃ h₄
        refine ⟨h₁.trans h₃, fun t ht => ?_⟩
        rcases List.mem_append.1 (hh a b ht) with ht | ht
        · exact (h₂ t ht).mono h₃
        · exact h₄ t ht
  named name seen := by
    rw [supply_named]
    cases hn : env name with
    | none => exact ⟨List.prefix_refl _, Or.inr ⟨name, hn, rfl⟩⟩
    | some t => exact ⟨List.prefix_refl _, fun u hu => List.mem_singleton.1 hu ▸ ⟨name, hn⟩⟩
  literal l seen := by
    refine ⟨List.prefix_append _ _, fun u hu => ?_⟩
    rw [List.mem_singleton.1 hu]
    exact List.getElem?_concat_length

end Lookup

section

variable {τ : Type} [Handle τ] {o : Operator} {env : String → Option τ} {op : Operation}

/-- a request that was decided was planned on the operands that were looked up -/
theorem plan_of_decision {i : Instruction (Operand τ)} (h : (o.decision env op).outcome = .ok i) :
    ∃ xs, (Lookup.supply env).fillSlots op o.signature [] = .ok xs (o.decision env op).literals ∧
      o.plan op xs = .ok i := by
  unfold Operator.decision at h ⊢
  cases hp : o.precheck op with
  | error e => rw [hp] at h; cases h
  | ok u =>
    rw [hp] at h
    dsimp only at h ⊢
    cases hf : (Lookup.supply env).fillSlots op o.signature [] with
    | error e seen => rw [hf] at h; cases h
    | ok xs seen => rw [hf] at h; exact ⟨xs, rfl, h⟩

/-- a request that was decided names operands that were found -/
theorem found_of_decision {i : Instruction (Operand τ)} (h : (o.decision env op).outcome = .ok i) :
    ∀ x ∈ i.handles, x.IsFound env (o.decision env op).literals := by
  obtain ⟨xs, hxs, hplan⟩ := plan_of_decision h
  have hfound := ((Lookup.finding env).fillSlots op o.signature []).2
  rw [hxs] at hfound
  exact fun x hx => hfound x (mem_operands_of_plan hplan x hx)

/-- an operation that comes to no request has something to complain about, or misses a tensor; the complaint is about a
kind only if the operation or a tensor that it finds is of the open one -/
theorem complaint_or_missing {e : RunError} (h : (o.decision env op).outcome = .error e) :
    e.IsComplaintIf (op.dtype = .generic ∨ ∃ name t, env name = some t ∧ Handle.kind t = .generic) ∨
      ∃ name, env name = none ∧ e = .unboundTensor name := by
  unfold Operator.decision at h
  have hpre := o.complainsIf_precheck op
  cases hp : o.precheck op with
  | error e' =>
    rw [hp] at h hpre
    cases h
    exact Or.inl (RunError.IsComplaintIf.mono False.elim hpre)
  | ok u =>
    rw [hp] at h
    have hlookup := ((Lookup.finding env).fillSlots op o.signature []).2
    cases hf : (Lookup.supply env).fillSlots op o.signature [] with
    | error e' seen =>
      rw [hf] at h hlookup
      cases h
      exact hlookup.imp_left (RunError.IsComplaintIf.mono False.elim)
    | ok xs seen =>
      rw [hf] at h hlookup
      have hplan := o.complainsIf_plan op xs
      dsimp only at h
      rw [h] at hplan
      refine Or.inl (RunError.IsComplaintIf.mono (Or.imp_right ?_) hplan)
      rintro ⟨x, hx, hkind⟩
      have hfound := hlookup x hx
      cases x with
      | bound t =>
        obtain ⟨name, hname⟩ := hfound
        exact ⟨name, t, hname, hkind⟩
      | literal number l => exact absurd hkind l.kind_ne_generic

theorem fault_of_decision {e : RunError} (h : (o.decision env op).outcome = .error e) :
    e.IsComplaint ∨ ∃ name, env name = none ∧ e = .unboundTensor name :=
  (complaint_or_missing h).imp_left RunError.IsComplaintIf.isComplaint

end

/-! ## The literals of an operation -/

/-- the values that are looked up for a slot -/
def Slot.values (op : Operation) : Slot → List Value
  | .input key => (op.input? key).toList
  | .output key => (op.output? key).toList
  | .optional key fallback => [(op.input? key).getD fallback]
  | .inputList key => ((op.input? key).bind Value.array?).getD []
  | .outputList key => ((op.output? key).bind Value.array?).getD []
  | .everything => op.operands.flatMap fun e => Supply.itemsOrSelf e.2

/-- the literals among values, in order -/
def literalsOf (values : List Value) : List Literal := values.filterMap Value.literal?

/-- the literals among the operands of an operation, in the order in which they are looked up -/
def Operator.literals (o : Operator) (op : Operation) : List Literal :=
  literalsOf (o.signature.flatMap (Slot.values op))

namespace Lookup

variable {τ α β : Type}

/-- a look-up that sees the given literals, or the first of them if it fails -/
def Sees (x : Lookup α) (ls : List Literal) : Prop := ∀ seen, match x seen with
  | .ok _ all => all = seen ++ ls
  | .error _ all => ∃ part, part <+: ls ∧ all = seen ++ part

namespace Sees

theorem pure (a : α) : Sees (pure a) [] := fun seen => (List.append_nil seen).symm

theorem throw (e : RunError) (ls : List Literal) : Sees (throw e : Lookup α) ls :=
  fun seen => ⟨[], List.nil_prefix, (List.append_nil seen).symm⟩

theorem bind {x : Lookup α} {k : α → Lookup β} {ls ms : List Literal} (hx : Sees x ls) (hk : ∀ a, Sees (k a) ms) :
    Sees (x >>= k) (ls ++ ms) := by
  intro seen
  have h₁ := hx seen
  rw [bind_apply]
  cases hx' : x seen with
  | error e all =>
    rw [hx'] at h₁
    obtain ⟨part, hpart, hall⟩ := h₁
    exact ⟨part, hpart.trans (List.prefix_append _ _), hall⟩
  | ok a all =>
    rw [hx'] at h₁
    subst h₁
    have h₂ := hk a (seen ++ ls)
    dsimp only
    cases hk' : k a (seen ++ ls) with
    | ok b all => rw [hk'] at h₂; exact h₂.trans (List.append_assoc _ _ _)
    | error e all =>
      rw [hk'] at h₂
      obtain ⟨part, hpart, hall⟩ := h₂
      exact ⟨ls ++ part, (List.prefix_append_right_inj ls).2 hpart, hall.trans (List.append_assoc _ _ _)⟩

/-- a last step that only puts results together sees nothing more -/
theorem pair {γ : Type} {x : Lookup α} {y : Lookup β} {ls ms : List Literal} (hx : Sees x ls) (hy : Sees y ms)
    (c : α → β → γ) : Sees (do let a ← x; let b ← y; return c a b) (ls ++ ms) := by
  have h := hx.bind fun a => hy.bind fun b => Sees.pure (c a b)
  rwa [List.append_nil] at h

end Sees

variable (env : String → Option τ)

theorem sees_resolve (op : Operation) (key : String) (v : Value) :
    Sees ((supply env).resolve op key v) v.literal?.toList := by
  unfold Supply.resolve
  split
  · rename_i name
    intro seen
    rw [supply_named]
    cases env name with
    | none => exact ⟨[], List.nil_prefix, (List.append_nil seen).symm⟩
    | some t => exact (List.append_nil seen).symm
  · split
    · rename_i l hl
      rw [hl]
      exact fun seen => rfl
    · exact Sees.throw _ _

theorem sees_resolveItems (op : Operation) (key : String) (items : List Value) :
    Sees ((supply env).resolveItems op key items) (literalsOf items) := by
  induction items with
  | nil => exact Sees.pure _
  | cons v rest ih =>
    have h := (sees_resolve env op key v).pair ih (fun t ts => t :: ts)
    have hl : literalsOf (v :: rest) = v.literal?.toList ++ literalsOf rest := by
      unfold literalsOf
      rw [List.filterMap_cons]
      cases v.literal? <;> rfl
    rw [hl]
    exact h

theorem sees_resolveList (op : Operation) (key : String) (v : Value) :
    Sees ((supply env).resolveList op key v) (literalsOf (v.array?.getD [])) := by
  unfold Supply.resolveList
  cases v.array? with
  | none => exact Sees.throw _ _
  | some items => exact sees_resolveItems env op key items

theorem sees_resolveOperands (op : Operation) (operands : List (String × Value)) :
    Sees ((supply env).resolveOperands op operands)
      (literalsOf (operands.flatMap fun e => Supply.itemsOrSelf e.2)) := by
  induction operands with
  | nil => exact Sees.pure _
  | cons e rest ih =>
    have h := (sees_resolveItems env op e.1 (Supply.itemsOrSelf e.2)).pair ih (fun ts us => ts ++ us)
    unfold literalsOf
    rw [List.flatMap_cons, List.filterMap_append]
    exact h

theorem sees_fillSlot (op : Operation) (slot : Slot) :
    Sees ((supply env).fillSlot op slot) (literalsOf (slot.values op)) := by
  have hsingle : ∀ key v, Sees ((supply env).resolve op key v) (literalsOf [v]) := fun key v => by
    have h := sees_resolve env op key v
    unfold literalsOf
    cases hl : v.literal? <;> simpa [hl] using h
  cases slot with
  | input key =>
    rw [Supply.fillSlot, Slot.values]
    cases op.input? key with
    | none => exact Sees.throw _ _
    | some v => exact hsingle key v
  | output key =>
    rw [Supply.fillSlot, Slot.values]
    cases op.output? key with
    | none => exact Sees.throw _ _
    | some v => exact hsingle key v
  | «optional» key fallback => exact hsingle key _
  | inputList key =>
    rw [Supply.fillSlot, Slot.values]
    cases op.input? key with
    | none => exact Sees.throw _ _
    | some v => exact sees_resolveList env op key v
  | outputList key =>
    rw [Supply.fillSlot, Slot.values]
    cases op.output? key with
    | none => exact Sees.throw _ _
    | some v => exact sees_resolveList env op key v
  | everything => exact sees_resolveOperands env op _

theorem sees_fillSlots (op : Operation) (slots : List Slot) :
    Sees ((supply env).fillSlots op slots) (literalsOf (slots.flatMap (Slot.values op))) := by
  induction slots with
  | nil => exact Sees.pure _
  | cons slot rest ih =>
    have h := (sees_fillSlot env op slot).pair ih (fun x xs => ((x, xs) : Operands (Operand τ) (slot :: rest)))
    unfold literalsOf
    rw [List.flatMap_cons, List.filterMap_append]
    exact h

end Lookup

variable {τ : Type} [Handle τ]

/-- a decision needs no literal besides those among the operands, and takes them in order -/
theorem prefix_literals_of_decision (o : Operator) (env : String → Option τ) (op : Operation) :
    (o.decision env op).literals <+: o.literals op := by
  unfold Operator.decision
  cases o.precheck op with
  | error e => exact List.nil_prefix
  | ok u =>
    have h := Lookup.sees_fillSlots env op o.signature []
    dsimp only
    cases hf : (Lookup.supply env).fillSlots op o.signature [] with
    | ok xs seen =>
      rw [hf] at h
      exact h ▸ List.prefix_refl _
    | error e seen =>
      rw [hf] at h
      obtain ⟨part, hpart, rfl⟩ := h
      exact hpart

/-- an operation that comes to a request needs exactly the literals among its operands -/
theorem literals_of_decision {o : Operator} {env : String → Option τ} {op : Operation}
    {i : Instruction (Operand τ)} (h : (o.decision env op).outcome = .ok i) :
    (o.decision env op).literals = o.literals op := by
  unfold Operator.decision at h ⊢
  cases hp : o.precheck op with
  | error e =>
    rw [hp] at h
    cases h
  | ok u =>
    rw [hp] at h
    have hs := Lookup.sees_fillSlots env op o.signature []
    dsimp only at h ⊢
    cases hf : (Lookup.supply env).fillSlots op o.signature [] with
    | ok xs seen =>
      rw [hf] at hs
      exact hs
    | error e seen =>
      rw [hf] at h
      cases h

end TensorGraph
