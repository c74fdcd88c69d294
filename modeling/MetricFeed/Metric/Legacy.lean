/-
MetricFeed/Metric/Legacy.lean

Metrics of the legacy registry: readings that are counters, gauges or summaries of observations.
-/
import MetricFeed.Metric.Id

namespace MetricFeed

/-- A reading of the legacy registry. -/
inductive LegacyValue
  | counter (count : Float)
  | gauge (value : Float)
  | histogram (count : UInt64) (sum : Float)
  | summary (count : UInt64) (sum : Float)

/-- A metric of the legacy registry with its reading. -/
structure LegacyMetric where
  id : MetricId
  value : LegacyValue

end MetricFeed
