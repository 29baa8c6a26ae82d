/-
Axes by number, from either end, and orders of axes.

Model: `axisIndex?` reads a possibly negative axis against a rank; `completePermutation?` fills a list of leading axes
up to a whole permutation by leaving the rest where they are.
-/

namespace TensorGraph

/-- sizes are words: each is below this -/
def wordSize : Nat := UInt64.size

/-- a size read as a signed word; the upper half of the range comes out negative -/
def asSigned (n : Nat) : Int := Int.bmod n wordSize

/-- the axis meant by `axis` in a tensor of a rank; a negative one counts from the end -/
def axisIndex? (axis : Int) (rank : Nat) : Option Nat :=
  let limit := asSigned rank
  let index := if axis < 0 then axis + limit else axis
  if 0 ≤ index ∧ index < limit then some index.toNat else none

/-- the listed axes first, then the axes from there on in place; nothing unless that is a permutation of all axes -/
def completePermutation? (axes : List Nat) (rank : Nat) : Option (List Nat) :=
  if rank < axes.length then none
  else
    let order := axes ++ List.range' axes.length (rank - axes.length)
    if order.all (· < rank) ∧ order.Nodup then some order else none

end TensorGraph
