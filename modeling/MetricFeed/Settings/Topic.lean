/-
MetricFeed/Settings/Topic.lean

The settings of the metrics topic.  The counts of partitions and replicas are -1 while they are
not set; whether they make up a shape is checked when a shape is asked for.
-/
import MetricFeed.Settings.Lookup
import MetricFeed.Topic.Spec

namespace MetricFeed

/-- The settings of the metrics topic. -/
structure TopicSettings where
  name : String := "__BrokerMetrics"
  autoCreate : Bool := false
  partitions : Int32 := -1
  replication : Int16 := -1
  retention : Duration := .ofMillis 18000000
  cleanupPolicy : CleanupPolicy := .delete
  deriving DecidableEq, Inhabited

namespace TopicSettings

/-! ### Properties -/

def nameProperty : String := "metrics.topic"
def autoCreateProperty : String := "metrics.topic.auto.create"
def partitionsProperty : String := "metrics.topic.num.partitions"
def replicationProperty : String := "metrics.topic.replication.factor"
def retentionProperty : String := "metrics.topic.retention.ms"
def cleanupPolicyProperty : String := "metrics.topic.cleanup.policy"

/-- The retention when none is set, in milliseconds. -/
def defaultRetentionMs : Nat := 18000000

/-! ### Loading -/

/-- The cleanup policy that is set, or to delete. -/
def loadPolicy (l : Lookup) : Except SettingFault CleanupPolicy :=
  match l cleanupPolicyProperty with
  | some raw => CleanupPolicy.read raw
  | none => .ok .delete

/-- The name that is set, its blanks removed, or the default name; never empty. -/
def loadName (l : Lookup) : Except SettingFault String :=
  let name := ((l nameProperty).map Text.trim).getD "__BrokerMetrics"
  if name = "" then .error (.invalidValue nameProperty name "topic name must not be empty")
  else .ok name

/-- Loads the settings. -/
def load (l : Lookup) : Except SettingFault TopicSettings := do
  let cleanupPolicy ← loadPolicy l
  let name ← loadName l
  let autoCreate ← l.boolOr autoCreateProperty false
  let partitions ← l.integerOr .i32 partitionsProperty (-1)
  let replication ← l.integerOr .i16 replicationProperty (-1)
  let retentionMs ← l.integerOr .u64 retentionProperty defaultRetentionMs
  return {
    name
    autoCreate
    partitions := Int32.ofInt partitions
    replication := Int16.ofInt replication
    retention := .ofMillis retentionMs.toNat
    cleanupPolicy }

/-- The wanted shape of the topic. -/
def spec (s : TopicSettings) : Except SettingFault TopicSpec :=
  TopicSpec.make s.name s.partitions s.replication s.retention s.cleanupPolicy

end TopicSettings

end MetricFeed
