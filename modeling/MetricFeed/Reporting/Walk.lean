/-
MetricFeed/Reporting/Walk.lean

A walk over the legacy registry: the metrics that it presents to a visitor, in order, and how it
ends.  A visitor that is cut short ends the walk there.
-/
import MetricFeed.Metric.Legacy
import MetricFeed.Reporting.Act

namespace MetricFeed

/-- How a walk ends that no visitor has cut short. -/
inductive WalkEnding
  | complete
  | failed (reason : String)
  | panicked

/-- A walk over the legacy registry. -/
structure Walk where
  metrics : List LegacyMetric
  ending : WalkEnding := .complete
  /-- Whether the registry says in the log which metric comes next. -/
  announced : Bool := false

namespace Walk

variable {σ : Type}

/-- Presents metrics to a visitor, each after its announcement. -/
def present (announce visit : LegacyMetric → Act σ Unit) : List LegacyMetric → Act σ Unit
  | [] => pure ()
  | m :: rest => do
    announce m
    visit m
    present announce visit rest

/-- The end of a walk. -/
def finish : WalkEnding → Act σ Unit
  | .complete => pure ()
  | .failed reason => Act.cut (.fault (.registry reason))
  | .panicked => Act.cut .panic

/-- Walks with a visitor. -/
def run (w : Walk) (announce visit : LegacyMetric → Act σ Unit) : Act σ Unit := do
  present (if w.announced then announce else fun _ => pure ()) visit w.metrics
  finish w.ending

end Walk

end MetricFeed
