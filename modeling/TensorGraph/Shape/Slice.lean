/-
Windows cut out of a tensor: where they start and how they step, per axis.

Model: axes that are not listed start at zero and step by one. Of several entries for one axis the last one counts.
-/
import TensorGraph.Shape.Axis

namespace TensorGraph

/-- the start meant by `start` on an axis of an extent; a negative one counts from the end -/
def startIndex? (start : Int) (extent : Nat) : Option Nat :=
  let limit := asSigned extent
  let index := if start < 0 then start + limit else start
  if 0 ≤ index ∧ index ≤ limit then some index.toNat else none

/-- set the start of each listed axis in turn -/
def setStarts (shape : List Nat) : (pairs : List (Int × Int)) → (starts : List Nat) → Option (List Nat)
  | [], starts => some starts
  | (axis, start) :: rest, starts => do
    let axis ← axisIndex? axis shape.length
    let extent ← shape[axis]?
    let start ← startIndex? start extent
    setStarts shape rest (starts.set axis start)

/-- where a slice starts on every axis; nothing if the lists do not pair up or an entry lies outside the shape -/
def sliceStarts? (shape : List Nat) (axes starts : List Int) : Option (List Nat) :=
  if axes.length ≠ starts.length then none
  else setStarts shape (axes.zip starts) (List.replicate shape.length 0)

/-- set the step of each listed axis in turn -/
def setSteps (rank : Nat) : (pairs : List (Int × Int)) → (steps : List Nat) → Option (List Nat)
  | [], steps => some steps
  | (axis, step) :: rest, steps => do
    let axis ← axisIndex? axis rank
    if step ≤ 0 then none else setSteps rank rest (steps.set axis step.toNat)

/-- how a slice steps on every axis; nothing if given steps do not pair up, or one is not positive -/
def sliceSteps? (rank : Nat) (axes steps : List Int) : Option (List Nat) :=
  if steps.isEmpty then some (List.replicate rank 1)
  else if axes.length ≠ steps.length then none
  else setSteps rank (axes.zip steps) (List.replicate rank 1)

end TensorGraph
