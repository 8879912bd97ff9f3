/-!
# Metrics

Everything that is counted is written down as an event, and the ledger is the list
of events, last first. Totals are read off it: a counter is the number of its
events, a gauge is its last event. So what a run has counted can be compared with
what it did, event by event.
-/

namespace Failover

/-- Something that is counted. -/
inductive Metric where
  /-- A logical request ended. -/
  | request (method status : String)
  /-- An attempt failed. -/
  | attemptFailure (kind server : String)
  /-- Another attempt is made after a failure. -/
  | retry (kind : String)
  /-- A discovery iteration ended. -/
  | discoveryRun (outcome : String)
  /-- The pool has so many servers now. -/
  | poolSize (servers : Nat)
  deriving DecidableEq, Repr

/-- The events so far, last first. -/
abbrev Ledger := List Metric

/-- How a series is shown: its name, and its labels in braces. -/
def seriesName (name : String) (labels : List (String × String)) : String :=
  let shown := labels.map fun (label, value) => label ++ "=" ++ value
  name ++ "\x7b" ++ String.intercalate "," shown ++ "\x7d"

namespace Metric

/-- The series that an event belongs to. -/
def series : Metric → List String
  | request method status =>
    [seriesName "trellis_requests_total" [("method", method), ("status", status)],
      seriesName "trellis_request_duration_seconds" [("method", method)]]
  | attemptFailure kind server =>
    [seriesName "trellis_attempt_failures_total" [("kind", kind), ("server", server)]]
  | retry kind => [seriesName "trellis_retries_total" [("kind", kind)]]
  | discoveryRun outcome => [seriesName "trellis_discovery_runs_total" [("outcome", outcome)]]
  | poolSize _ => [seriesName "trellis_pool_size" []]

/-- What an event makes of the value of its series. -/
def update : Metric → Nat → Nat
  | poolSize servers, _ => servers
  | _, total => total + 1

end Metric

namespace Ledger

def record (l : Ledger) (m : Metric) : Ledger := m :: l

/-- The number of events like this one. -/
def total (l : Ledger) (m : Metric) : Nat := l.count m

/-- The last size of the pool that was written down. -/
def poolSize? : Ledger → Option Nat
  | [] => none
  | .poolSize n :: _ => some n
  | _ :: l => poolSize? l

/-- Sets the value of a series. -/
def setSeries (values : List (String × Nat)) (name : String) (f : Nat → Nat) :
    List (String × Nat) :=
  match values with
  | [] => [(name, f 0)]
  | (k, n) :: r => if k = name then (k, f n) :: r else (k, n) :: setSeries r name f

/-- The value of every series, in the order in which they came up. -/
def report (l : Ledger) : List (String × Nat) :=
  l.reverse.foldl
    (fun values m => m.series.foldl (fun values name => setSeries values name m.update) values) []

end Ledger

/-- The status under which an answer is counted. -/
def answerStatus (succeeded : Bool) : String :=
  if succeeded then "ok" else "failed"

end Failover
