/-
Elements of literals, one by one.

Model: `Value.listed` are the items of an array, and any other value alone. `Value.coerce?` is an item as an element of
a kind, `Value.Spells` is what a value says by itself, and `Payload.ofElements?` and `Payload.spread?` put elements of
one kind together. None of them is used by an operator: what operators read and fill in is compared with them here.

Main results:
- `payloadOfKind_eq_ok_iff`: a literal is read as a payload of a kind item by item;
- `ofElements?_eq_some_iff`, `spread?_elements` and `zeros_eq_ofElements?`: what payloads are made of;
- `literal?_eq_some_iff`: what a literal operand stands for.
-/
import TensorGraph.Proofs.Attributes

namespace TensorGraph

/-! ## Model -/

/-- the items of an array, or a value by itself; tuples are not opened, nor are arrays within arrays -/
def Value.listed : Value → List Value
  | .array items => items
  | v => [v]

/-- a value as an element of a kind; an integer is as good as a scalar -/
def Value.coerce? (kind : ElementKind) (v : Value) : Option Literal :=
  match kind, v with
  | .float, .scalar x => some (.float (.ofBinary64 x))
  | .float, .integer n => some (.float (.ofBinary64 (.ofInt n.toInt)))
  | .integer, .integer n => some (.integer n)
  | .bool, .logical b => some (.bool b)
  | _, _ => none

/-- a value that says an element by itself: scalars are rounded to single precision -/
inductive Value.Spells : Value → Literal → Prop
  | scalar (x : Binary64) : Spells (.scalar x) (.float (.ofBinary64 x))
  | integer (n : Int64) : Spells (.integer n) (.integer n)
  | logical (b : Bool) : Spells (.logical b) (.bool b)

/-- the element that new tensors of a kind are full of; the open kind has none -/
def ElementKind.zero? : ElementKind → Option Literal
  | .bool => some (.bool false)
  | .integer => some (.integer 0)
  | .float => some (.float .zero)
  | .generic => none

namespace Literal

def bool? : Literal → Option Bool
  | .bool b => some b
  | _ => none

def integer? : Literal → Option Int64
  | .integer n => some n
  | _ => none

def float? : Literal → Option Binary32
  | .float x => some x
  | _ => none

end Literal

/-- the payload with these elements, if all of them are of the kind -/
def Payload.ofElements? (kind : ElementKind) (l : List Literal) : Option Payload :=
  match kind with
  | .bool => (l.mapM Literal.bool?).map .bool
  | .integer => (l.mapM Literal.integer?).map .integer
  | .float => (l.mapM Literal.float?).map .float
  | .generic => none

/-- the payload with a single element in every place -/
def Payload.spread? (kind : ElementKind) (size : Nat) : List Literal → Option Payload
  | [l] => ofElements? kind (List.replicate size l)
  | _ => none

/-- how the elements of a kind are read, one by one, and what a payload is made of -/
structure Operation.ReadsAs (op : Operation) (kind : ElementKind) {α : Type} (view : Value → Option α)
    (literal : α → Literal) (payload : List α → Payload) : Prop where
  coerce_eq : ∀ v, v.coerce? kind = (view v).map literal
  kind_eq : ∀ l, (payload l).kind = kind
  elements_eq : ∀ l, (payload l).elements = l.map literal
  read_eq : ∀ v, op.payloadOfKind kind v = (op.elements kind view v.listed).map payload

/-! ## Single literals -/

/-- a literal operand stands for the element it says -/
theorem Value.literal?_eq_some_iff {v : Value} {l : Literal} : v.literal? = some l ↔ v.Spells l := by
  constructor
  · intro h
    cases v with
    | scalar x => cases h; exact .scalar x
    | integer n => cases h; exact .integer n
    | logical b => cases h; exact .logical b
    | _ => cases h
  · rintro (x | n | b) <;> rfl

namespace Literal

theorem bool?_eq_some_iff (l : Literal) (b : Bool) : l.bool? = some b ↔ l = .bool b := by
  cases l <;> simp [bool?]

theorem integer?_eq_some_iff (l : Literal) (n : Int64) : l.integer? = some n ↔ l = .integer n := by
  cases l <;> simp [integer?]

theorem float?_eq_some_iff (l : Literal) (x : Binary32) : l.float? = some x ↔ l = .float x := by
  cases l <;> simp [float?]

end Literal

/-! ## Payloads -/

namespace Payload

/-- elements are put together to the payload of the kind that has them -/
theorem ofElements?_eq_some_iff {kind : ElementKind} {l : List Literal} {p : Payload} :
    ofElements? kind l = some p ↔ p.kind = kind ∧ p.elements = l := by
  cases kind with
  | bool =>
    simp only [ofElements?, Option.map_eq_some_iff, mapM_eq_some_iff_of_view Literal.bool?_eq_some_iff]
    cases p <;> simp [Payload.kind, elements, eq_comm]
  | integer =>
    simp only [ofElements?, Option.map_eq_some_iff, mapM_eq_some_iff_of_view Literal.integer?_eq_some_iff]
    cases p <;> simp [Payload.kind, elements, eq_comm]
  | float =>
    simp only [ofElements?, Option.map_eq_some_iff, mapM_eq_some_iff_of_view Literal.float?_eq_some_iff]
    cases p <;> simp [Payload.kind, elements, eq_comm]
  | generic => simp [ofElements?, p.kind_ne_generic]

theorem kind_of_ofElements? {kind : ElementKind} {l : List Literal} {p : Payload} (h : ofElements? kind l = some p) :
    p.kind = kind ∧ p.length = l.length := by
  obtain ⟨hkind, rfl⟩ := ofElements?_eq_some_iff.1 h
  exact ⟨hkind, p.length_elements.symm⟩

theorem kind_of_spread? {kind : ElementKind} {size : Nat} {l : List Literal} {p : Payload}
    (h : spread? kind size l = some p) : p.kind = kind ∧ p.length = size := by
  unfold spread? at h
  split at h
  · obtain ⟨hkind, hlength⟩ := kind_of_ofElements? h
    exact ⟨hkind, hlength.trans List.length_replicate⟩
  · cases h

/-- what is repeated is the one element there is -/
theorem elements_of_broadcast {p q : Payload} {size : Nat} (h : p.broadcast size = some q) :
    ∃ l, p.elements = [l] ∧ q.kind = p.kind ∧ q.elements = List.replicate size l := by
  unfold broadcast at h
  split at h <;> cases h <;> exact ⟨_, rfl, rfl, List.map_replicate⟩

theorem spread?_elements (p : Payload) (size : Nat) : spread? p.kind size p.elements = p.broadcast size := by
  cases h : p.broadcast size with
  | some q =>
    obtain ⟨l, hl, hkind, helements⟩ := elements_of_broadcast h
    rw [hl]
    exact ofElements?_eq_some_iff.2 ⟨hkind, helements⟩
  | none =>
    have hmany : p.elements.length ≠ 1 := by
      rwa [p.length_elements, ne_eq, ← broadcast_isSome_iff, Option.not_isSome_iff_eq_none]
    rcases hp : p.elements with _ | ⟨l, _ | ⟨l', rest⟩⟩
    · rfl
    · exact absurd (congrArg List.length hp) hmany
    · rfl

theorem elements_of_zeros {kind : ElementKind} {size : Nat} {p : Payload} (h : zeros kind size = some p) :
    ∃ zero, kind.zero? = some zero ∧ p.elements = List.replicate size zero := by
  cases kind <;> cases h <;> exact ⟨_, rfl, List.map_replicate⟩

/-- new tensors are full of zeros -/
theorem zeros_eq_ofElements? (kind : ElementKind) (size : Nat) :
    zeros kind size = kind.zero?.bind fun zero => ofElements? kind (List.replicate size zero) := by
  cases h : zeros kind size with
  | none =>
    rw [zeros_eq_none_iff.1 h]
    rfl
  | some p =>
    obtain ⟨zero, hzero, helements⟩ := elements_of_zeros h
    rw [hzero]
    exact (ofElements?_eq_some_iff.2 ⟨(kind_of_zeros h).1, helements⟩).symm

end Payload

namespace Operation

variable {op : Operation}

/-! ## Items -/

section

variable {α : Type} {kind : ElementKind} {view : Value → Option α} {items : List Value}

theorem elements_eq_ok_iff {l : List α} : op.elements kind view items = .ok l ↔ items.map view = l.map some := by
  induction items generalizing l with
  | nil => cases l <;> simp [elements]
  | cons v rest ih =>
    rw [elements]
    cases hv : view v with
    | none => cases l <;> simp [hv]
    | some x =>
      simp only [except_bind_eq_ok_iff, ih]
      cases l <;> simp [hv, and_comm]

theorem exists_elements_iff : (∃ l, op.elements kind view items = .ok l) ↔ ∀ v ∈ items, (view v).isSome := by
  induction items with
  | nil => exact ⟨fun _ => nofun, fun _ => ⟨[], rfl⟩⟩
  | cons v rest ih =>
    rw [elements, List.forall_mem_cons, ← ih]
    cases hv : view v with
    | none => simp
    | some x =>
      simp [except_bind_eq_ok_iff]

/-- an item that is not of the kind is a fault of the value -/
theorem elements_eq_error {e : RunError} (h : op.elements kind view items = .error e) :
    ∃ reason, e = op.malformed "value" reason := by
  induction items with
  | nil => cases h
  | cons v rest ih =>
    rw [elements] at h
    cases hv : view v with
    | none =>
      rw [hv] at h
      cases h
      exact ⟨_, rfl⟩
    | some x =>
      rw [hv] at h
      cases hrest : op.elements kind view rest with
      | ok l =>
        rw [hrest] at h
        cases h
      | error e' =>
        rw [hrest] at h
        cases h
        exact ih hrest

end

/-! ## Literals -/

section

variable {kind : ElementKind} {v : Value} {p : Payload}

/-- every kind that has elements is read in the same way -/
theorem exists_readsAs (op : Operation) (hkind : kind ≠ .generic) :
    ∃ (α : Type) (view : Value → Option α) (literal : α → Literal) (payload : List α → Payload),
      op.ReadsAs kind view literal payload := by
  cases kind with
  | float =>
    refine ⟨_, fun v => v.scalar?.map Binary32.ofBinary64, .float, .float, fun v => ?_, fun _ => rfl, fun _ => rfl,
      fun v => ?_⟩
    · cases v <;> rfl
    · cases v <;> rfl
  | integer =>
    refine ⟨_, Value.integer?, .integer, .integer, fun v => ?_, fun _ => rfl, fun _ => rfl, fun v => ?_⟩
    · cases v <;> rfl
    · cases v <;> rfl
  | bool =>
    refine ⟨_, Value.logical?, .bool, .bool, fun v => ?_, fun _ => rfl, fun _ => rfl, fun v => ?_⟩
    · cases v <;> rfl
    · cases v <;> rfl
  | generic => exact absurd rfl hkind

/-- what is read has the items as its elements, in order -/
theorem elements_of_payloadOfKind (h : op.payloadOfKind kind v = .ok p) :
    p.kind = kind ∧ v.listed.map (Value.coerce? kind) = p.elements.map some := by
  have hkind : kind ≠ .generic := by
    rintro rfl
    cases h
  obtain ⟨α, view, literal, payload, hreads⟩ := op.exists_readsAs hkind
  rw [hreads.read_eq] at h
  cases hl : op.elements kind view v.listed with
  | error e =>
    rw [hl] at h
    cases h
  | ok l =>
    rw [hl] at h
    cases h
    refine ⟨hreads.kind_eq l, ?_⟩
    calc v.listed.map (Value.coerce? kind)
      _ = (v.listed.map view).map (Option.map literal) := by
        rw [List.map_map]
        exact List.map_congr_left fun item _ => hreads.coerce_eq item
      _ = (l.map literal).map some := by
        rw [elements_eq_ok_iff.1 hl, List.map_map, List.map_map]
        rfl
      _ = (payload l).elements.map some := by rw [hreads.elements_eq]

/-- a literal can be read if each of its items is one of the kind -/
theorem exists_payloadOfKind_iff (hkind : kind ≠ .generic) :
    (∃ p, op.payloadOfKind kind v = .ok p) ↔ ∀ item ∈ v.listed, (item.coerce? kind).isSome := by
  obtain ⟨α, view, literal, payload, hreads⟩ := op.exists_readsAs hkind
  have hread : (∃ p, op.payloadOfKind kind v = .ok p) ↔ ∃ l, op.elements kind view v.listed = .ok l := by
    rw [hreads.read_eq]
    cases op.elements kind view v.listed <;> simp [Except.map]
  rw [hread, exists_elements_iff]
  simp only [hreads.coerce_eq, Option.isSome_map]

/-- **Literals are read item by item.** -/
theorem payloadOfKind_eq_ok_iff : op.payloadOfKind kind v = .ok p ↔
    p.kind = kind ∧ v.listed.map (Value.coerce? kind) = p.elements.map some := by
  refine ⟨elements_of_payloadOfKind, fun ⟨hkind, h⟩ => ?_⟩
  have hitems : ∀ item ∈ v.listed, (item.coerce? kind).isSome := by
    intro item hitem
    have hmem : item.coerce? kind ∈ p.elements.map some := h ▸ List.mem_map_of_mem hitem
    obtain ⟨l, -, hl⟩ := List.mem_map.1 hmem
    rw [← hl]
    rfl
  obtain ⟨q, hq⟩ := (op.exists_payloadOfKind_iff (hkind ▸ p.kind_ne_generic)).2 hitems
  obtain ⟨hqkind, hqs⟩ := elements_of_payloadOfKind hq
  have hsame : q.elements = p.elements :=
    (List.map_inj_right fun _ _ heq => Option.some.inj heq).1 (hqs.symm.trans h)
  rw [hq, Payload.ext_elements (hqkind.trans hkind.symm) hsame]

theorem payloadOfKind_eq_error (hkind : kind ≠ .generic) {e : RunError} (h : op.payloadOfKind kind v = .error e) :
    ∃ reason, e = op.malformed "value" reason := by
  obtain ⟨α, view, literal, payload, hreads⟩ := op.exists_readsAs hkind
  rw [hreads.read_eq] at h
  cases hl : op.elements kind view v.listed with
  | error e' =>
    rw [hl] at h
    cases h
    exact elements_eq_error hl
  | ok l =>
    rw [hl] at h
    cases h

end

end Operation

end TensorGraph
