/-
Figures of a run: how often each operation ran and how long it took.

Model: durations are whole nanoseconds. Times are measured by the caller; here they are only summed up.
-/
import TensorGraph.NameMap

namespace TensorGraph

/-- a length of time in nanoseconds -/
abbrev Duration := Nat

/-- the times of one operation -/
structure OperationTimes where
  count : Nat
  total : Duration
  min : Duration
  max : Duration
deriving DecidableEq, Repr, Inhabited

namespace OperationTimes

/-- the first time -/
def first (elapsed : Duration) : OperationTimes := ⟨1, elapsed, elapsed, elapsed⟩

/-- one more time -/
def record (t : OperationTimes) (elapsed : Duration) : OperationTimes :=
  ⟨t.count + 1, t.total + elapsed, Nat.min t.min elapsed, Nat.max t.max elapsed⟩

/-- the mean, rounded down; a count that is zero or beyond 32 bits has none, which is shown as zero -/
def average (t : OperationTimes) : Duration := if t.count < UInt32.size then t.total / t.count else 0

end OperationTimes

/-- figures of a whole run -/
structure RunStatistics where
  operationsExecuted : Nat
  /-- requests to the engine, those for preparing tensors included -/
  requests : Nat
  duration : Duration
  /-- empty unless times were asked for -/
  perOperation : NameMap OperationTimes
deriving DecidableEq, Repr, Inhabited

namespace RunStatistics

/-- whether one entry is listed before another: more time first, then by name -/
def slower (a b : String × OperationTimes) : Bool :=
  b.2.total < a.2.total || (a.2.total == b.2.total && decide (a.1 ≤ b.1))

/-- entries in the order of `slower` -/
def slowestFirst (entries : List (String × OperationTimes)) : List (String × OperationTimes) :=
  entries.mergeSort slower

/-- the operations of a run, those that took longest first -/
def slowest (s : RunStatistics) : List (String × OperationTimes) := slowestFirst s.perOperation.entries

end RunStatistics

end TensorGraph
