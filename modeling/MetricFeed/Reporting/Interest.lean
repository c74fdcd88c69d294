/-
MetricFeed/Reporting/Interest.lean

Which metrics of the host are worth reporting.
-/
import MetricFeed.Metric.Id

namespace MetricFeed

/-- Which metrics are worth reporting, by their identity. -/
abbrev Interest := MetricId → Bool

namespace Interest

/-- Metrics of the given groups. -/
def inGroups (groups : List String) : Interest :=
  fun id => groups.contains id.group

/-- Metrics whose name starts with the given text. -/
def namedFrom (start : String) : Interest :=
  fun id => start.toList.isPrefixOf id.name.toList

end Interest

end MetricFeed
