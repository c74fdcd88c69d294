/-
MetricFeed/Reporting/Exposition.lean

Families of labelled metrics, as a metrics library exposes them, and the legacy metrics that they
amount to.  Gathering drops families without metrics, joins families of one name, and puts
families in the order of their names and the metrics of a family in the order of their labels.
-/
import MetricFeed.Reporting.Walk

namespace MetricFeed

/-- What the metrics of a family measure. -/
inductive FamilyKind
  | counter
  | gauge
  | untyped
  | histogram
  | summary
  deriving DecidableEq, Repr

/-- How many values have been observed, and their sum. -/
structure Observed where
  count : UInt64 := 0
  sum : Float := 0

/-- A metric of a family: its labels and a reading of each kind, zero unless it was recorded. -/
structure LabelledMetric where
  labels : List (String × String)
  counter : Float := 0
  gauge : Float := 0
  untyped : Float := 0
  histogram : Observed := {}
  summary : Observed := {}

/-- Metrics of one name. -/
structure Family where
  name : String
  kind : FamilyKind
  metrics : List LabelledMetric

namespace LabelledMetric

/-- The reading of the family's kind. -/
def readAs (kind : FamilyKind) (m : LabelledMetric) : LegacyValue :=
  match kind with
  | .counter => .counter m.counter
  | .gauge => .gauge m.gauge
  | .untyped => .gauge m.untyped
  | .histogram => .histogram m.histogram.count m.histogram.sum
  | .summary => .summary m.summary.count m.summary.sum

/-- Compares label values from the front; the labels' names are not looked at. -/
def compareLabels : List (String × String) → List (String × String) → Ordering
  | a :: as, b :: bs => (compare a.2 b.2).then (compareLabels as bs)
  | _, _ => .eq

/-- The order of metrics in a family: fewer labels first, then by label values. -/
def order (a b : LabelledMetric) : Ordering :=
  (compare a.labels.length b.labels.length).then (compareLabels a.labels b.labels)

end LabelledMetric

namespace Exposition

/-- Adds a family to those that come before it: to the one of its name, or as a new one. -/
def join : List Family → Family → List Family
  | [], f => [f]
  | g :: rest, f =>
    if g.name = f.name then { g with metrics := g.metrics ++ f.metrics } :: rest
    else g :: join rest f

/-- The families in gathered order. -/
def gather (families : List Family) : List Family :=
  let joined := (families.filter fun f => !f.metrics.isEmpty).foldl join []
  let sorted := joined.mergeSort fun a b => compare a.name b.name != .gt
  sorted.map fun f =>
    { f with metrics := f.metrics.mergeSort fun a b => LabelledMetric.order a b != .gt }

/-- The identity of a metric: its labels become tags. -/
def idOf (group : String) (family : Family) (m : LabelledMetric) : MetricId :=
  MetricId.withTags { group, name := family.name } m.labels

/-- The legacy metrics of a family. -/
def metricsOf (group : String) (family : Family) : List LegacyMetric :=
  family.metrics.map fun m => ⟨idOf group family m, m.readAs family.kind⟩

/-- The legacy metrics of gathered families, in order. -/
def metrics (group : String) (families : List Family) : List LegacyMetric :=
  families.flatMap (metricsOf group)

/-- The walk over gathered families. -/
def walk (group : String) (families : List Family) : Walk :=
  { metrics := metrics group families, announced := true }

end Exposition

end MetricFeed
