/-
MetricFeed/Metric/Sample.lean

Samples: the value of one metric at one instant, with the entity that it describes.  This is what
is published to the metrics topic.
-/
import MetricFeed.Metric.Id
import MetricFeed.Decimal.Layout
import MetricFeed.Text.Quoted

namespace MetricFeed

/-- The entity that a sample describes. -/
inductive Scope
  | broker
  | topic (name : String)
  | custom
  deriving DecidableEq

/-- The value of one metric at one instant. -/
structure Sample where
  scope : Scope
  nodeId : Int32
  timeMs : Int64
  metricType : String
  value : Float

namespace Scope

/-- The word for the kind of entity. -/
def className : Scope → String
  | .broker => "broker"
  | .topic _ => "topic"
  | .custom => "custom"

/-- The topic described, if it is one. -/
def topic? : Scope → Option String
  | .topic name => some name
  | _ => none

/-- A scope as messages show it. -/
def inMessage : Scope → String
  | .broker => "Broker"
  | .topic name => "Topic(" ++ Text.quoted name ++ ")"
  | .custom => "Custom"

end Scope

namespace Sample

/-- The key under which a sample is published: samples of a topic go together, and so do the
other samples of a node. -/
def key (s : Sample) : String :=
  match s.scope with
  | .topic name => name
  | .broker | .custom => toString s.nodeId.toInt

/-- A sample as messages show it. -/
def inMessage (s : Sample) : String :=
  "CanonicalMetric \x7b scope: " ++ s.scope.inMessage
    ++ ", node_id: " ++ toString s.nodeId.toInt
    ++ ", time_ms: " ++ toString s.timeMs.toInt
    ++ ", metric_type: " ++ Text.quoted s.metricType
    ++ ", value: " ++ Decimal.inMessages.write s.value ++ " \x7d"

end Sample

end MetricFeed
