/-
Reading JSON text.

Model: a reader takes characters from the front of the text and gives what it read with the rest. Nested documents are
bounded by a number of steps that the length of the text makes sufficient. Of members with one name the last counts.
-/
import TensorGraph.Json.Basic
import TensorGraph.Number.Decimal

namespace TensorGraph.Json.Reader

/-- a rule of the grammar: what it read, and the text that is left -/
abbrev Rule (α : Type) := List Char → Option (α × List Char)

/-! ## Characters -/

def isBlank (c : Char) : Bool := c = ' ' ∨ c = '\t' ∨ c = '\n' ∨ c = '\r'

def skipBlanks (cs : List Char) : List Char := cs.dropWhile isBlank

/-- the value of a hexadecimal digit -/
def hexDigit? (c : Char) : Option Nat :=
  if '0' ≤ c ∧ c ≤ '9' then some (c.toNat - '0'.toNat)
  else if 'a' ≤ c ∧ c ≤ 'f' then some (c.toNat - 'a'.toNat + 10)
  else if 'A' ≤ c ∧ c ≤ 'F' then some (c.toNat - 'A'.toNat + 10)
  else none

/-- a number written in hexadecimal digits -/
def hex? (cs : List Char) : Option Nat :=
  cs.foldlM (fun n c => (hexDigit? c).map (16 * n + ·)) 0

/-- a number written in decimal digits -/
def digits (cs : List Char) : Nat := cs.foldl (fun n c => 10 * n + (c.toNat - '0'.toNat)) 0

/-! ## Strings -/

/-- what a short escape stands for -/
def escape? : Char → Option Char
  | '"' => some '"'
  | '\\' => some '\\'
  | '/' => some '/'
  | 'b' => some '\x08'
  | 'f' => some '\x0c'
  | 'n' => some '\n'
  | 'r' => some '\r'
  | 't' => some '\t'
  | _ => none

/-- the character of a pair of surrogates -/
def surrogates? (high low : Nat) : Option Char :=
  if 0xD800 ≤ high ∧ high < 0xDC00 ∧ 0xDC00 ≤ low ∧ low < 0xE000 then
    some (Char.ofNat (0x10000 + (high - 0xD800) * 0x400 + (low - 0xDC00)))
  else none

/-- the rest of a string after its opening quote; `seen` holds what came before, last character first -/
def stringBody (seen : List Char) : Rule String
  | '"' :: rest => some (String.ofList seen.reverse, rest)
  | '\\' :: 'u' :: a :: b :: c :: d :: rest => do
    let unit ← hex? [a, b, c, d]
    if 0xD800 ≤ unit ∧ unit < 0xE000 then
      match rest with
      | '\\' :: 'u' :: e :: f :: g :: h :: rest => do
        let low ← hex? [e, f, g, h]
        let c ← surrogates? unit low
        stringBody (c :: seen) rest
      | _ => none
    else stringBody (Char.ofNat unit :: seen) rest
  | '\\' :: c :: rest => do
    let c ← escape? c
    stringBody (c :: seen) rest
  | c :: rest => if c.toNat < 0x20 then none else stringBody (c :: seen) rest
  | [] => none

/-! ## Numbers -/

/-- digits from the front, at least one -/
def someDigits : Rule (List Char) := fun cs =>
  match cs.takeWhile Char.isDigit with
  | [] => none
  | ds => some (ds, cs.dropWhile Char.isDigit)

/-- digits after a point, if there is one -/
def fraction : Rule (Option (List Char))
  | '.' :: rest => (someDigits rest).map fun (ds, rest) => (some ds, rest)
  | cs => some (none, cs)

/-- a power of ten, if there is one -/
def exponent : Rule (Option Int)
  | c :: rest =>
    if c = 'e' ∨ c = 'E' then
      let (negative, rest) := match rest with
        | '-' :: rest => (true, rest)
        | '+' :: rest => (false, rest)
        | rest => (false, rest)
      (someDigits rest).map fun (ds, rest) => (some (if negative then -(digits ds : Int) else digits ds), rest)
    else some (none, c :: rest)
  | [] => some (none, [])

/-- an integer as it is kept; a negative zero is no integer -/
def ofInteger (negative : Bool) (n : Nat) : Json :=
  let value : Int := if negative then -n else n
  if negative ∧ n = 0 then .decimal (Decimal.toBinary64 ⟨true, 0, 0⟩)
  else if Int64.minValue.toInt ≤ value ∧ value < UInt64.size then .integer value
  else .decimal (Decimal.toBinary64 ⟨negative, n, 0⟩)

/-- a number; one beyond the range of doubles is refused, and so are leading zeros -/
def number : Rule Json := fun cs => do
  let (negative, cs) := match cs with
    | '-' :: rest => (true, rest)
    | cs => (false, cs)
  let (whole, cs) ← someDigits cs
  if 1 < whole.length ∧ whole.head? = some '0' then none
  else
    let (fraction, cs) ← fraction cs
    let (exponent, cs) ← exponent cs
    match fraction, exponent with
    | none, none => some (ofInteger negative (digits whole), cs)
    | fraction, exponent =>
      let fraction := fraction.getD []
      let x := Decimal.toBinary64 ⟨negative, digits (whole ++ fraction), exponent.getD 0 - fraction.length⟩
      if x.isFinite then some (.decimal x, cs) else none

/-! ## Documents -/

/-- drop a word from the front -/
def word (expected : String) (j : Json) : Rule Json := fun cs =>
  if expected.toList.isPrefixOf cs then some (j, cs.drop expected.length) else none

/-- set a member, in the place of an earlier one of the same name -/
def setMember (key : String) (j : Json) : List (String × Json) → List (String × Json)
  | [] => [(key, j)]
  | e :: rest => if key = e.1 then (key, j) :: rest else e :: setMember key j rest

mutual

/-- one document, in a number of steps -/
def document : (steps : Nat) → Rule Json
  | 0, _ => none
  | steps + 1, cs =>
    match skipBlanks cs with
    | 'n' :: rest => word "null" .null ('n' :: rest)
    | 't' :: rest => word "true" (.bool true) ('t' :: rest)
    | 'f' :: rest => word "false" (.bool false) ('f' :: rest)
    | '"' :: rest => (stringBody [] rest).map fun (s, rest) => (.string s, rest)
    | '[' :: rest =>
      match skipBlanks rest with
      | ']' :: rest => some (.array [], rest)
      | rest => items steps [] rest
    | '\x7b' :: rest =>
      match skipBlanks rest with
      | '\x7d' :: rest => some (.object [], rest)
      | rest => members steps [] rest
    | cs => number cs

/-- the items of an array after its opening bracket; `seen` holds the items before, last one first -/
def items : (steps : Nat) → (seen : List Json) → Rule Json
  | 0, _, _ => none
  | steps + 1, seen, cs => do
    let (j, cs) ← document steps cs
    match skipBlanks cs with
    | ',' :: rest => items steps (j :: seen) rest
    | ']' :: rest => some (.array (j :: seen).reverse, rest)
    | _ => none

/-- the members of an object after its opening brace -/
def members : (steps : Nat) → (seen : List (String × Json)) → Rule Json
  | 0, _, _ => none
  | steps + 1, seen, cs =>
    match skipBlanks cs with
    | '"' :: rest => do
      let (key, cs) ← stringBody [] rest
      match skipBlanks cs with
      | ':' :: rest => do
        let (j, cs) ← document steps rest
        let seen := setMember key j seen
        match skipBlanks cs with
        | ',' :: rest => members steps seen rest
        | '\x7d' :: rest => some (.object seen, rest)
        | _ => none
      | _ => none
    | _ => none

end

end Reader

/-- the document that a text is, if it is one -/
def parse? (text : String) : Option Json :=
  let cs := text.toList
  match Reader.document (2 * cs.length + 1) cs with
  | some (j, rest) => if (Reader.skipBlanks rest).isEmpty then some j else none
  | none => none

end TensorGraph.Json
