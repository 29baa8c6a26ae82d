/-
JSON documents as values.

Model: a number is an integer where it is written as one and fits the range of 64-bit words, signed or not; any other
number is a double. Members of an object keep their order, and no two have one name.
-/
import TensorGraph.NameMap
import TensorGraph.Number.Binary

namespace TensorGraph

/-- a JSON document -/
inductive Json
  | null
  | bool (b : Bool)
  | integer (n : Int)
  | decimal (x : Binary64)
  | string (text : String)
  | array (items : List Json)
  | object (members : List (String × Json))
deriving Repr, Inhabited

namespace Json

/-! ## Building -/

def nat (n : Nat) : Json := .integer n

/-- an array with an item for each element -/
def list {α : Type} (f : α → Json) (l : List α) : Json := .array (l.map f)

/-- an object with a member for each entry -/
def map {α : Type} (f : α → Json) (m : NameMap α) : Json := .object (m.entries.map fun e => (e.1, f e.2))

/-- an object with one member -/
def tagged (tag : String) (body : Json) : Json := .object [(tag, body)]

/-! ## Reading -/

def bool? : Json → Option Bool
  | .bool b => some b
  | _ => none

def string? : Json → Option String
  | .string text => some text
  | _ => none

/-- a number without a fraction, written without one, that is a word -/
def nat? : Json → Option Nat
  | .integer n => if 0 ≤ n ∧ n < UInt64.size then some n.toNat else none
  | _ => none

/-- a number without a fraction, written without one, that is a signed word -/
def int64? : Json → Option Int64
  | .integer n => if Int64.minValue.toInt ≤ n ∧ n ≤ Int64.maxValue.toInt then some (Int64.ofInt n) else none
  | _ => none

/-- all items, if every one can be read -/
def readAll {α : Type} (f : Json → Option α) : List Json → Option (List α)
  | [] => some []
  | j :: rest => do
    let x ← f j
    let xs ← readAll f rest
    some (x :: xs)

def list? {α : Type} (f : Json → Option α) : Json → Option (List α)
  | .array items => readAll f items
  | _ => none

/-- an array of exactly two items -/
def pair? {α : Type} (f : Json → Option α) : Json → Option (α × α)
  | .array [a, b] => do
    let x ← f a
    let y ← f b
    some (x, y)
  | _ => none

/-- all members, if every value can be read -/
def readMembers {α : Type} (f : Json → Option α) : List (String × Json) → Option (List (String × α))
  | [] => some []
  | (key, j) :: rest => do
    let x ← f j
    let xs ← readMembers f rest
    some ((key, x) :: xs)

/-- an object as a map -/
def map? {α : Type} (f : Json → Option α) : Json → Option (NameMap α)
  | .object members => (readMembers f members).map NameMap.ofList
  | _ => none

/-- the first member of a name -/
def lookup (key : String) : List (String × Json) → Option Json
  | [] => none
  | e :: rest => if key = e.1 then some e.2 else lookup key rest

/-- the member of an object -/
def member? (key : String) : Json → Option Json
  | .object members => lookup key members
  | _ => none

/--
The fields of a record under given keys: members of an object, or items of an array in the order of the keys. Members
under other keys are passed over; an array may be short of items but has no more than there are keys.
-/
def fields? (keys : List String) : Json → Option (List (Option Json))
  | .object members => some (keys.map fun key => lookup key members)
  | .array items =>
    if keys.length < items.length then none
    else some (items.map some ++ List.replicate (keys.length - items.length) none)
  | _ => none

/-- a bare name: a string, or an object whose one member has no value -/
def bareName? : Json → Option String
  | .string text => some text
  | .object [(tag, .null)] => some tag
  | _ => none

end Json

end TensorGraph
