/-
MetricFeed/Reporting/Conversion.lean

How observed values become samples.  A metric with a topic tag describes that topic, a metric of
one of the broker's groups the broker, any other is custom.  Values that are not finite have no
sample.
-/
import MetricFeed.Fault
import MetricFeed.Metric.Sample
import MetricFeed.Text.Case

namespace MetricFeed.Conversion

/-- The tag that names the topic which a metric describes. -/
def topicTag : String := "topic"

/-- The entity that a metric describes. -/
def scopeOf (brokerGroups : List String) (id : MetricId) : Scope :=
  match id.tag? topicTag with
  | some topic => .topic topic
  | none => if brokerGroups.contains id.group then .broker else .custom

/-- Hyphens, dots and spaces become underscores. -/
def underscored (s : String) : String :=
  String.ofList (s.toList.map fun c => if c = '-' ∨ c = '.' ∨ c = ' ' then '_' else c)

/-- The type under which a metric is reported: its name in upper case. -/
def metricType (id : MetricId) : String :=
  Text.upper (underscored id.name)

/-- The sample of an observed value. -/
def sample? (brokerGroups : List String) (id : MetricId) (value : Float) (now : Int64)
    (nodeId : Int32) : Option Sample :=
  if value.isFinite then
    some
      { scope := scopeOf brokerGroups id
        nodeId
        timeMs := now
        metricType := metricType id
        value }
  else
    none

/-- The type under which the host's utilization is reported. -/
def hostType : String := "BROKER_CPU_UTIL"

/-- The sample of the host's utilization, which must be available. -/
def hostSample (utilization : Option Float) (now : Int64) (nodeId : Int32) :
    Except ReportFault Sample :=
  match utilization with
  | some value => .ok { scope := .broker, nodeId, timeMs := now, metricType := hostType, value }
  | none => .error (.conversion hostType "CPU utilization is not available")

end MetricFeed.Conversion
