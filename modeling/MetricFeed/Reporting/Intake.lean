/-
MetricFeed/Reporting/Intake.lean

The metrics of the host that are registered for reporting.  Only metrics of interest are kept; a
metric that is added under a registered identity takes the place of the earlier one.

A snapshot lists the handles in the order in which their identities were first registered.
-/
import MetricFeed.Notice
import MetricFeed.Reporting.Interest
import MetricFeed.Table

namespace MetricFeed

/-- Registered metrics: for each identity the handle through which it is read. -/
structure Intake (H : Type) where
  interest : Interest
  metrics : Table MetricId H := {}

namespace Intake

variable {H : Type}

/-- Registers a metric if it is of interest, and says whether it is. -/
def add (i : Intake H) (id : MetricId) (handle : H) : Bool × Intake H :=
  if i.interest id then (true, { i with metrics := i.metrics.insert id handle }) else (false, i)

/-- What is said in the log when a metric is offered. -/
def offerNotices (i : Intake H) (id : MetricId) : List Notice :=
  .checkingMetric id :: (if i.interest id then [.metricAdded id] else [])

/-- Removes a metric, and says whether it was registered. -/
def remove (i : Intake H) (id : MetricId) : Bool × Intake H :=
  (i.metrics.contains id, { i with metrics := i.metrics.erase id })

def contains (i : Intake H) (id : MetricId) : Bool :=
  i.metrics.contains id

def size (i : Intake H) : Nat :=
  i.metrics.size

/-- The handles of the registered metrics. -/
def snapshot (i : Intake H) : List H :=
  i.metrics.values

/-- The handles in the order of their identities. -/
def sortedSnapshot (i : Intake H) : List (MetricId × H) :=
  i.metrics.entries.mergeSort fun a b => MetricId.order a.1 b.1 != .gt

end Intake

end MetricFeed
