/-
MetricFeed/Topic/Spec.lean

The wanted shape of the metrics topic, the configuration keys that the agent owns in it, and the
changes that bring a live configuration in line (`TopicSpec.drift`).  Keys that the agent does not
own are never touched.
-/
import MetricFeed.TextMap
import MetricFeed.Topic.CleanupPolicy

namespace MetricFeed

/-! ### The wanted shape -/

/-- The wanted shape of a topic. -/
structure TopicSpec where
  name : String
  partitions : Nat
  replication : Nat
  retention : Duration
  cleanupPolicy : CleanupPolicy
  partitions_pos : 0 < partitions
  replication_pos : 0 < replication
  deriving DecidableEq

namespace TopicSpec

/-- The key of a topic's configuration that holds the retention in milliseconds. -/
def retentionKey : String := "retention.ms"

/-- A shape from counts that may not have been set; both counts must be positive. -/
def make (name : String) (partitions : Int32) (replication : Int16) (retention : Duration)
    (cleanupPolicy : CleanupPolicy) : Except SettingFault TopicSpec :=
  if h : 0 < partitions.toInt ∧ 0 < replication.toInt then
    .ok
      { name
        partitions := partitions.toInt.toNat
        replication := replication.toInt.toNat
        retention
        cleanupPolicy
        partitions_pos := by omega
        replication_pos := by omega }
  else
    .error (.invalidTopicShape partitions replication)

/-- The retention as a topic's configuration holds it. -/
def retentionText (spec : TopicSpec) : String :=
  toString spec.retention.wholeMillis

/-- The configuration that the agent owns.  The entries are listed by ascending key: this is the
order in which changes of them are to be made, so whatever is selected from them need not be sorted
again. -/
def owned (spec : TopicSpec) : List (String × String) :=
  [(CleanupPolicy.configKey, spec.cleanupPolicy.word), (retentionKey, spec.retentionText)]

/-- The configuration of a topic made to this shape. -/
def configs (spec : TopicSpec) : TextMap :=
  TextMap.ofList spec.owned

end TopicSpec

/-! ### Changes to a configuration -/

/-- What happens to a key of a topic's configuration. -/
inductive ConfigAction
  | set (value : String)
  | delete
  deriving DecidableEq

/-- A change to one key of a topic's configuration. -/
structure ConfigChange where
  key : String
  action : ConfigAction
  deriving DecidableEq

/-- The configuration after a change. -/
def ConfigChange.apply (configs : TextMap) (change : ConfigChange) : TextMap :=
  match change.action with
  | .set value => configs.insert change.key value
  | .delete => configs.erase change.key

/-- The configuration after changes, one after the other. -/
def applyChanges (configs : TextMap) (changes : List ConfigChange) : TextMap :=
  changes.foldl ConfigChange.apply configs

namespace TopicSpec

/-- Whether a live value means the same as the wanted one: policies are compared as sets of
words, other values as trimmed texts. -/
def agrees (key live wanted : String) : Bool :=
  if key = CleanupPolicy.configKey then CleanupPolicy.sameWords live wanted
  else Text.trim live = wanted

/-- The changes that bring a live configuration in line: one for each owned key that is missing
or means something else.  They are sorted by key because the owned entries are listed so. -/
def drift (spec : TopicSpec) (live : TextMap) : List ConfigChange :=
  (spec.owned.filter fun (key, wanted) =>
    match live.get? key with
    | some current => !agrees key current wanted
    | none => true).map fun (key, wanted) => ⟨key, .set wanted⟩

end TopicSpec

/-! ### The live topic -/

/-- The live layout of a topic. -/
structure TopicLayout where
  name : String
  partitions : Nat
  deriving DecidableEq

end MetricFeed
