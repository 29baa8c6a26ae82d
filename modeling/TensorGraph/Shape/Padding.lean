/-
Padding that makes a window operation produce a given extent.

Model: with `output` positions at distance `stride` and a window of `window` elements at distance `dilation`, the window
reaches over `(output - 1) * stride + (window - 1) * dilation + 1` elements. What the input lacks is split evenly, an
odd element being dropped. The reach has to be a word at every step of its computation.
-/
import TensorGraph.Shape.Axis

namespace TensorGraph

/-- the number itself, if it is a word -/
def word? (n : Nat) : Option Nat := if n < wordSize then some n else none

/-- padding before, and as much after, on one axis; nothing if the reach of the window is no word -/
def samePadding (input output window stride dilation : Nat) : Option Nat := do
  let span ← word? ((output - 1) * stride)
  let reach ← word? ((window - 1) * dilation)
  let joint ← word? (span + reach)
  let needed ← word? (joint + 1)
  some ((needed - input) / 2)

/-- the padding of every axis as a pair; the shortest list says how many axes there are -/
def samePaddings : (input output window stride dilation : List Nat) → Option (List (Nat × Nat))
  | i :: is, o :: os, w :: ws, s :: ss, d :: ds => do
    let p ← samePadding i o w s d
    let rest ← samePaddings is os ws ss ds
    some ((p, p) :: rest)
  | _, _, _, _, _ => some []

end TensorGraph
