/-
Kinds of tensor elements.
-/
import TensorGraph.Graph.Error

namespace TensorGraph

/-- what the elements of a tensor are; `generic` is a kind left open, which nothing can be stored as -/
inductive ElementKind
  | bool
  | integer
  | float
  | generic
deriving DecidableEq, Repr, Inhabited

namespace ElementKind

/-- the name used in graph descriptions and messages -/
def label : ElementKind → String
  | .bool => "logical"
  | .integer => "integer"
  | .float => "scalar"
  | .generic => "?"

/-- whether an engine can hold tensors of the kind -/
def isConcrete (k : ElementKind) : Bool := k ≠ .generic

theorem isConcrete_iff {k : ElementKind} : k.isConcrete = true ↔ k ≠ .generic := decide_eq_true_iff

theorem isConcrete_eq_false_iff {k : ElementKind} : k.isConcrete = false ↔ k = .generic := by
  cases k <;> decide

/-- read a kind; the common type names are accepted beside the labels -/
def ofText (text : String) : Except GraphError ElementKind :=
  match text with
  | "logical" | "bool" => .ok .bool
  | "integer" => .ok .integer
  | "scalar" | "float" => .ok .float
  | "?" => .ok .generic
  | other => .error (.unknownElementKind other)

end ElementKind

end TensorGraph
