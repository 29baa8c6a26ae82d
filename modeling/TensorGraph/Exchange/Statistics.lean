/-
Figures of a run in the exchange format. A duration is written as whole seconds and the nanoseconds beyond them.
-/
import TensorGraph.Json.Basic
import TensorGraph.Run.Statistics

namespace TensorGraph.Exchange

def writeDuration (d : Duration) : Json := .object [
  ("secs", .nat (d / 1000000000)),
  ("nanos", .nat (d % 1000000000))]

def writeTimes (t : OperationTimes) : Json := .object [
  ("count", .nat t.count),
  ("total", writeDuration t.total),
  ("min", writeDuration t.min),
  ("max", writeDuration t.max)]

def writeStatistics (s : RunStatistics) : Json := .object [
  ("operations_executed", .nat s.operationsExecuted),
  ("engine_calls", .nat s.requests),
  ("total_duration", writeDuration s.duration),
  ("per_operation", .map writeTimes s.perOperation)]

end TensorGraph.Exchange
