/-
Operands and attributes of operations.

A value refers to a tensor by name or is a literal; arrays hold lists of any length (strides, axes), tuples fixed
groups such as a pair of paddings.
-/
import TensorGraph.Number.Decimal
import TensorGraph.Payload

namespace TensorGraph

/-- an operand or attribute -/
inductive Value
  | identifier (name : String)
  | scalar (x : Binary64)
  | integer (n : Int64)
  | logical (b : Bool)
  | string (text : String)
  | array (items : List Value)
  | tuple (items : List Value)
deriving Repr, Inhabited

namespace Value

/-! ## Building -/

def ofIntegers (l : List Int64) : Value := .array (l.map .integer)

def ofNames (l : List String) : Value := .array (l.map .identifier)

/-- an array of pairs, each a tuple -/
def ofPairs (l : List (Int64 × Int64)) : Value := .array (l.map fun p => .tuple [.integer p.1, .integer p.2])

/-! ## Equality -/

mutual

/-- equality is decidable, item by item -/
def decEq : (a b : Value) → Decidable (a = b)
  | .identifier a, b => match b with
    | .identifier b => if h : a = b then isTrue (h ▸ rfl) else isFalse (by simpa using h)
    | .scalar _ | .integer _ | .logical _ | .string _ | .array _ | .tuple _ => isFalse (by simp)
  | .scalar a, b => match b with
    | .scalar b => if h : a = b then isTrue (h ▸ rfl) else isFalse (by simpa using h)
    | .identifier _ | .integer _ | .logical _ | .string _ | .array _ | .tuple _ => isFalse (by simp)
  | .integer a, b => match b with
    | .integer b => if h : a = b then isTrue (h ▸ rfl) else isFalse (by simpa using h)
    | .identifier _ | .scalar _ | .logical _ | .string _ | .array _ | .tuple _ => isFalse (by simp)
  | .logical a, b => match b with
    | .logical b => if h : a = b then isTrue (h ▸ rfl) else isFalse (by simpa using h)
    | .identifier _ | .scalar _ | .integer _ | .string _ | .array _ | .tuple _ => isFalse (by simp)
  | .string a, b => match b with
    | .string b => if h : a = b then isTrue (h ▸ rfl) else isFalse (by simpa using h)
    | .identifier _ | .scalar _ | .integer _ | .logical _ | .array _ | .tuple _ => isFalse (by simp)
  | .array a, b => match b with
    | .array b => match decEqItems a b with
      | isTrue h => isTrue (h ▸ rfl)
      | isFalse h => isFalse (by simpa using h)
    | .identifier _ | .scalar _ | .integer _ | .logical _ | .string _ | .tuple _ => isFalse (by simp)
  | .tuple a, b => match b with
    | .tuple b => match decEqItems a b with
      | isTrue h => isTrue (h ▸ rfl)
      | isFalse h => isFalse (by simpa using h)
    | .identifier _ | .scalar _ | .integer _ | .logical _ | .string _ | .array _ => isFalse (by simp)

def decEqItems : (a b : List Value) → Decidable (a = b)
  | [], [] => isTrue rfl
  | [], _ :: _ => isFalse (by simp)
  | _ :: _, [] => isFalse (by simp)
  | x :: xs, y :: ys =>
    match decEq x y, decEqItems xs ys with
    | isTrue h, isTrue t => isTrue (by rw [h, t])
    | isFalse h, _ => isFalse (fun e => h (List.cons.inj e).1)
    | _, isFalse t => isFalse (fun e => t (List.cons.inj e).2)

end

instance : DecidableEq Value := decEq

/-! ## Views -/

/-- what sort of value it is, for messages -/
def sortName : Value → String
  | .identifier _ => "identifier"
  | .scalar _ => "scalar"
  | .integer _ => "integer"
  | .logical _ => "logical"
  | .string _ => "string"
  | .array _ => "array"
  | .tuple _ => "tuple"

def identifier? : Value → Option String
  | .identifier name => some name
  | _ => none

/-- a scalar; an integer is read as one -/
def scalar? : Value → Option Binary64
  | .scalar x => some x
  | .integer n => some (.ofInt n.toInt)
  | _ => none

def integer? : Value → Option Int64
  | .integer n => some n
  | _ => none

def logical? : Value → Option Bool
  | .logical b => some b
  | _ => none

def string? : Value → Option String
  | .string text => some text
  | _ => none

def array? : Value → Option (List Value)
  | .array items => some items
  | _ => none

def tuple? : Value → Option (List Value)
  | .tuple items => some items
  | _ => none

/-- the element a literal operand stands for; names, strings, arrays and tuples are no elements -/
def literal? : Value → Option Literal
  | .scalar x => some (.float (.ofBinary64 x))
  | .integer n => some (.integer n)
  | .logical b => some (.bool b)
  | _ => none

def isLiteral (v : Value) : Bool := v.literal?.isSome

/-- how many items an array or a tuple has; any other value has none -/
def length : Value → Nat
  | .array items => items.length
  | .tuple items => items.length
  | _ => 0

def isEmpty (v : Value) : Bool := v.length = 0

mutual

/-- every name in the value, depth first and from left to right -/
def identifiers : Value → List String
  | .identifier name => [name]
  | .array items => identifiersOfItems items
  | .tuple items => identifiersOfItems items
  | .scalar _ | .integer _ | .logical _ | .string _ => []

def identifiersOfItems : List Value → List String
  | [] => []
  | v :: rest => identifiers v ++ identifiersOfItems rest

end

mutual

/-- the text of a value: strings in quotes, arrays in brackets, tuples in parentheses -/
def render : Value → String
  | .identifier name => name
  | .scalar x => x.render
  | .integer n => toString n.toInt
  | .logical b => if b then "true" else "false"
  | .string text => "'" ++ text ++ "'"
  | .array items => "[" ++ String.intercalate ", " (renderItems items) ++ "]"
  | .tuple items => "(" ++ String.intercalate ", " (renderItems items) ++ ")"

def renderItems : List Value → List String
  | [] => []
  | v :: rest => render v :: renderItems rest

end

/-! ## Items -/

theorem identifiersOfItems_eq_flatMap (items : List Value) :
    identifiersOfItems items = items.flatMap identifiers := by
  induction items with
  | nil => rfl
  | cons v rest ih => simp [identifiersOfItems, ih]

end Value

end TensorGraph
