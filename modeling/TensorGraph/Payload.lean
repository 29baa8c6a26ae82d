/-
Literal contents of tensors: flat lists of elements in row-major order, all of one kind.
-/
import TensorGraph.ElementKind
import TensorGraph.Number.Binary

namespace TensorGraph

/-- how many elements a shape describes; the empty shape describes one -/
def volume (shape : List Nat) : Nat := shape.foldr (· * ·) 1

/-- one element -/
inductive Literal
  | bool (b : Bool)
  | integer (n : Int64)
  | float (x : Binary32)
deriving DecidableEq, Repr, Inhabited

/-- the elements of a tensor -/
inductive Payload
  | bool (elements : List Bool)
  | integer (elements : List Int64)
  | float (elements : List Binary32)
deriving DecidableEq, Repr, Inhabited

namespace Payload

def kind : Payload → ElementKind
  | .bool _ => .bool
  | .integer _ => .integer
  | .float _ => .float

def length : Payload → Nat
  | .bool l => l.length
  | .integer l => l.length
  | .float l => l.length

def isEmpty (p : Payload) : Bool := p.length = 0

/-- the elements, one by one -/
def elements : Payload → List Literal
  | .bool l => l.map .bool
  | .integer l => l.map .integer
  | .float l => l.map .float

/-- a payload of zeros; the open kind has none -/
def zeros (kind : ElementKind) (volume : Nat) : Option Payload :=
  match kind with
  | .bool => some (.bool (List.replicate volume false))
  | .integer => some (.integer (List.replicate volume 0))
  | .float => some (.float (List.replicate volume .zero))
  | .generic => none

/-- repeat a single element `volume` times; any other payload has nothing to repeat -/
def broadcast (p : Payload) (volume : Nat) : Option Payload :=
  match p with
  | .bool [b] => some (.bool (List.replicate volume b))
  | .integer [n] => some (.integer (List.replicate volume n))
  | .float [x] => some (.float (List.replicate volume x))
  | _ => none

def floats? : Payload → Option (List Binary32)
  | .float l => some l
  | _ => none

def integers? : Payload → Option (List Int64)
  | .integer l => some l
  | _ => none

def bools? : Payload → Option (List Bool)
  | .bool l => some l
  | _ => none

/-! ## Elements -/

@[simp] theorem length_elements (p : Payload) : p.elements.length = p.length := by
  cases p <;> exact List.length_map _

/-- no payload is of the open kind -/
theorem kind_ne_generic (p : Payload) : p.kind ≠ .generic := by cases p <;> simp [kind]

/-- a payload is known by its kind and its elements -/
theorem ext_elements {p q : Payload} (hkind : p.kind = q.kind) (h : p.elements = q.elements) : p = q := by
  cases p <;> cases q <;> cases hkind <;> simp only [elements] at h <;>
    exact congrArg _ ((List.map_inj_right fun _ _ heq => by cases heq; rfl).1 h)

/-! ## Size and kind of what is built -/

theorem kind_of_zeros {kind : ElementKind} {volume : Nat} {p : Payload} (h : zeros kind volume = some p) :
    p.kind = kind ∧ p.length = volume := by
  cases kind <;> simp [zeros] at h <;> subst h <;> simp [Payload.kind, length]

theorem zeros_eq_none_iff {kind : ElementKind} {volume : Nat} : zeros kind volume = none ↔ kind = .generic := by
  cases kind <;> simp [zeros]

theorem broadcast_isSome_iff {p : Payload} {volume : Nat} : (p.broadcast volume).isSome ↔ p.length = 1 := by
  rcases p with (_ | ⟨_, _ | _⟩) | (_ | ⟨_, _ | _⟩) | (_ | ⟨_, _ | _⟩) <;> simp [broadcast, length]

end Payload

namespace Literal

def kind : Literal → ElementKind
  | .bool _ => .bool
  | .integer _ => .integer
  | .float _ => .float

/-- the payload of a tensor with this one element -/
def toPayload : Literal → Payload
  | .bool b => .bool [b]
  | .integer n => .integer [n]
  | .float x => .float [x]

@[simp] theorem kind_toPayload (l : Literal) : l.toPayload.kind = l.kind := by cases l <;> rfl

@[simp] theorem length_toPayload (l : Literal) : l.toPayload.length = 1 := by cases l <;> rfl

/-- the one element is the literal -/
@[simp] theorem elements_toPayload (l : Literal) : l.toPayload.elements = [l] := by cases l <;> rfl

/-- a payload with the one element is the payload of the literal -/
theorem eq_toPayload {l : Literal} {p : Payload} (h : p.elements = [l]) : p = l.toPayload := by
  refine Payload.ext_elements ?_ (h.trans l.elements_toPayload.symm)
  cases p <;> obtain ⟨x, -, rfl⟩ := List.map_eq_singleton_iff.1 h <;> rfl

theorem kind_ne_generic (l : Literal) : l.kind ≠ .generic := by cases l <;> simp [kind]

end Literal

end TensorGraph
