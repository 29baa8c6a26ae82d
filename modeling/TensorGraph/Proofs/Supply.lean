/-
Looking up operands, whatever they are come by.

Model: all operands of an operation are looked up through the tensors of single names and single literals. A
`Collection` is a property of steps and of the handles that they come up with, and a `Translation` a relation between
the steps of two supplies, through a change of handles. Both go through doing nothing, complaining and sequences.

Main results: what is true of single names and literals is true of whole signatures, for a collection
(`Collection.fillSlots`) and for a translation (`Translation.fillSlots`).
-/
import TensorGraph.Proofs.Complaints
import TensorGraph.Proofs.Handles
import TensorGraph.Run.Operand

namespace TensorGraph

variable {m m' : Type → Type} {τ τ' : Type} [Monad m] [MonadExcept RunError m] [Monad m'] [MonadExcept RunError m']

/-! ## The handles that are found -/

/-- a property of steps and of the handles that they come up with -/
structure Collection (supply : Supply m τ) where
  Yields : {α : Type} → m α → (α → List τ) → Prop
  pure : ∀ {α : Type} (a : α) {handles : α → List τ}, handles a = [] → Yields (pure a) handles
  /-- looking up complains about no kind -/
  throw : ∀ {α : Type} {e : RunError} (handles : α → List τ), e.IsComplaintIf False → Yields (throw e) handles
  bind : ∀ {α β : Type} {x : m α} {k : α → m β} {f : α → List τ} {g : β → List τ}, Yields x f →
    (∀ a, Yields (k a) g) → Yields (x >>= k) g
  /-- what the first step found is still there when the second one ends -/
  pair : ∀ {α β γ : Type} {x : m α} {y : m β} {f : α → List τ} {g : β → List τ} (c : α → β → γ) {h : γ → List τ},
    Yields x f → Yields y g → (∀ a b, h (c a b) ⊆ f a ++ g b) → Yields (do let a ← x; let b ← y; return c a b) h
  named : ∀ name, Yields (supply.named name) fun t => [t]
  literal : ∀ l, Yields (supply.literal l) fun t => [t]

namespace Collection

variable {supply : Supply m τ} (C : Collection supply)

theorem resolve (op : Operation) (key : String) (v : Value) : C.Yields (supply.resolve op key v) fun t => [t] := by
  unfold Supply.resolve
  split
  · exact C.named _
  · split
    · exact C.literal _
    · exact C.throw _ trivial

theorem required (op : Operation) (key what : String) (v : Option Value) :
    C.Yields (Supply.required op key what v) fun _ => [] := by
  cases v with
  | none => exact C.throw _ trivial
  | some v => exact C.pure _ rfl

theorem resolveItems (op : Operation) (key : String) (items : List Value) :
    C.Yields (supply.resolveItems op key items) id := by
  induction items with
  | nil => exact C.pure _ rfl
  | cons v rest ih => exact C.pair _ (C.resolve op key v) ih fun t ts => List.Subset.refl _

theorem resolveList (op : Operation) (key : String) (v : Value) : C.Yields (supply.resolveList op key v) id := by
  unfold Supply.resolveList
  split
  · exact C.resolveItems op key _
  · exact C.throw _ trivial

theorem resolveOperands (op : Operation) (operands : List (String × Value)) :
    C.Yields (supply.resolveOperands op operands) id := by
  induction operands with
  | nil => exact C.pure _ rfl
  | cons e rest ih => exact C.pair _ (C.resolveItems op e.1 _) ih fun ts us => List.Subset.refl _

theorem fillSlot (op : Operation) (slot : Slot) :
    C.Yields (supply.fillSlot op slot) (Slot.Filling.toList slot) := by
  cases slot with
  | input key => exact C.bind (C.required op key _ _) fun v => C.resolve op key v
  | output key => exact C.bind (C.required op key _ _) fun v => C.resolve op key v
  | «optional» key fallback => exact C.resolve op key _
  | inputList key => exact C.bind (C.required op key _ _) fun v => C.resolveList op key v
  | outputList key => exact C.bind (C.required op key _ _) fun v => C.resolveList op key v
  | everything => exact C.resolveOperands op _

/-- **Operands are collected from names and literals.** What is true of the handles of single names and literals is true
of the handles of a whole signature. -/
theorem fillSlots (op : Operation) (slots : List Slot) :
    C.Yields (supply.fillSlots op slots) (Operands.toList slots) := by
  induction slots with
  | nil => exact C.pure _ rfl
  | cons slot rest ih => exact C.pair _ (C.fillSlot op slot) ih fun x xs => List.Subset.refl _

end Collection

/-! ## Two supplies side by side -/

/-- steps of one supply that do what steps of another do -/
structure Translation (supply : Supply m τ) (supply' : Supply m' τ') (f : τ → τ') where
  Rel : {α α' : Type} → (α → α') → m α → m' α' → Prop
  pure : ∀ {α α' : Type} (g : α → α') (a : α), Rel g (pure a) (pure (g a))
  throw : ∀ {α α' : Type} (g : α → α') {e : RunError}, e.IsComplaint → Rel g (throw e) (throw e)
  bind : ∀ {α α' β β' : Type} {g : α → α'} {h : β → β'} {x : m α} {x' : m' α'} {k : α → m β} {k' : α' → m' β'},
    Rel g x x' → (∀ a, Rel h (k a) (k' (g a))) → Rel h (x >>= k) (x' >>= k')
  named : ∀ name, Rel f (supply.named name) (supply'.named name)
  literal : ∀ l, Rel f (supply.literal l) (supply'.literal l)

namespace Translation

variable {supply : Supply m τ} {supply' : Supply m' τ'} {f : τ → τ'} (T : Translation supply supply' f)

theorem resolve (op : Operation) (key : String) (v : Value) :
    T.Rel f (supply.resolve op key v) (supply'.resolve op key v) := by
  unfold Supply.resolve
  split
  · exact T.named _
  · split
    · exact T.literal _
    · exact T.throw _ trivial

theorem resolveItems (op : Operation) (key : String) (items : List Value) :
    T.Rel (List.map f) (supply.resolveItems op key items) (supply'.resolveItems op key items) := by
  induction items with
  | nil => exact T.pure _ _
  | cons v rest ih => exact T.bind (T.resolve op key v) fun _ => T.bind ih fun _ => T.pure _ _

theorem required (op : Operation) (key what : String) (v : Option Value) :
    T.Rel id (Supply.required op key what v) (Supply.required op key what v) := by
  cases v with
  | none => exact T.throw _ trivial
  | some v => exact T.pure id v

theorem resolveList (op : Operation) (key : String) (v : Value) :
    T.Rel (List.map f) (supply.resolveList op key v) (supply'.resolveList op key v) := by
  unfold Supply.resolveList
  split
  · exact T.resolveItems op key _
  · exact T.throw _ trivial

theorem resolveOperands (op : Operation) (operands : List (String × Value)) :
    T.Rel (List.map f) (supply.resolveOperands op operands) (supply'.resolveOperands op operands) := by
  induction operands with
  | nil => exact T.pure _ _
  | cons e rest ih =>
    refine T.bind (T.resolveItems op e.1 _) fun ts => T.bind ih fun us => ?_
    rw [← List.map_append]
    exact T.pure _ _

theorem fillSlot (op : Operation) (slot : Slot) :
    T.Rel (Slot.Filling.map f slot) (supply.fillSlot op slot) (supply'.fillSlot op slot) := by
  cases slot with
  | input key => exact T.bind (T.required op key _ _) fun v => T.resolve op key v
  | output key => exact T.bind (T.required op key _ _) fun v => T.resolve op key v
  | «optional» key fallback => exact T.resolve op key _
  | inputList key => exact T.bind (T.required op key _ _) fun v => T.resolveList op key v
  | outputList key => exact T.bind (T.required op key _ _) fun v => T.resolveList op key v
  | everything => exact T.resolveOperands op _

/-- **Signatures are looked up operand by operand.** What is related for names and literals is related for all operands
of an operation. -/
theorem fillSlots (op : Operation) (slots : List Slot) :
    T.Rel (Operands.map f slots) (supply.fillSlots op slots) (supply'.fillSlots op slots) := by
  induction slots with
  | nil => exact T.pure _ _
  | cons slot rest ih => exact T.bind (T.fillSlot op slot) fun _ => T.bind ih fun _ => T.pure _ _

end Translation

end TensorGraph
