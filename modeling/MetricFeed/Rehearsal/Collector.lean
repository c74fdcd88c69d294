/-
MetricFeed/Rehearsal/Collector.lean

Collectors rehearse the legacy registry without a loop.  One takes samples instead of the metrics
topic, another takes the metrics of a walk; either refuses when it holds as many as its limit
says.
-/
import MetricFeed.Reporting.Pass

namespace MetricFeed.Rehearsal

/-- A collection that takes no more than its limit, if it has one. -/
structure Collector (α : Type) where
  items : Array α := #[]
  limit : Option Nat := none

namespace Collector

variable {α : Type}

/-- Whether the limit has been reached. -/
def isFull (c : Collector α) : Bool :=
  c.limit.any (· ≤ c.items.size)

def push (a : α) (c : Collector α) : Collector α :=
  { c with items := c.items.push a }

/-! ### Samples of legacy metrics -/

/-- Takes a sample; a full collector refuses it as a closed producer does. -/
def takeSample (sample : Sample) : Act (PassState (Collector Sample)) Unit := fun p =>
  if p.state.isFull then (.error (.fault (.publish .closed)), p)
  else (.ok (), { p with state := p.state.push sample })

/-- The usual conversion; the host's utilization is not available. -/
def converter (brokerGroups : List String) : Converter (Collector Sample) :=
  .standard brokerGroups fun c => (.value none, c)

/-- Visits a legacy metric, and yields the sample that was taken, if any. -/
def visit (brokerGroups : List String) (nodeId : Int32) (now : Int64) (metric : LegacyMetric)
    (p : PassState (Collector Sample)) :
    Except Cut (Option Sample) × PassState (Collector Sample) :=
  let (outcome, next) :=
    Pass.convertLegacy (converter brokerGroups) takeSample nodeId now metric p
  (outcome.map fun _ => next.state.items[p.state.items.size]?, next)

/-- Completes the walk. -/
def finishWalk (p : PassState (Collector Sample)) : PassState (Collector Sample) :=
  { p with rates := p.rates.finishWalk }

/-! ### Metrics of a walk -/

/-- Takes a metric; a full collector refuses it. -/
def takeMetric (metric : LegacyMetric) : Act (Collector LegacyMetric) Unit := fun c =>
  if c.isFull then
    (.error (.fault (.conversion metric.id.render "visitor refused")), c)
  else (.ok (), c.push metric)

/-- Takes the metrics of a walk until it ends or the collector refuses one. -/
def takeWalk (w : Walk) (limit : Option Nat) : Except Cut Unit × Collector LegacyMetric :=
  w.run (fun _ => pure ()) takeMetric { limit }

end Collector

end MetricFeed.Rehearsal
