/-
MetricFeed/Topic/Reconciliation.lean

What an attempt to bring the metrics topic into shape has led to, step by step.
-/
import MetricFeed.Text.Quoted

namespace MetricFeed

/-- The outcome for the configuration of an existing topic. -/
inductive ConfigOutcome
  | unchanged
  | altered (keys : List String)
  | failed
  deriving DecidableEq

/-- The outcome for the partition count of an existing topic. -/
inductive PartitionOutcome
  | unchanged (live : Nat)
  | increased (before after : Nat)
  | failed
  deriving DecidableEq

/-- The outcome for the topic. -/
inductive ProvisionOutcome
  | created
  | reconciled (config : ConfigOutcome) (partitions : PartitionOutcome)
  /-- The topic could not be created, for another reason than that it exists. -/
  | abandoned
  deriving DecidableEq

/-! ### Texts -/

def ConfigOutcome.inMessage : ConfigOutcome → String
  | .unchanged => "Unchanged"
  | .altered keys => "Altered(" ++ Text.quotedList keys ++ ")"
  | .failed => "Failed"

def PartitionOutcome.inMessage : PartitionOutcome → String
  | .unchanged live => "Unchanged \x7b live: " ++ toString live ++ " \x7d"
  | .increased before after =>
    "Increased \x7b from: " ++ toString before ++ ", to: " ++ toString after ++ " \x7d"
  | .failed => "Failed"

def ProvisionOutcome.inMessage : ProvisionOutcome → String
  | .created => "Created"
  | .reconciled config partitions =>
    "Reconciled \x7b config: " ++ config.inMessage ++ ", partitions: " ++ partitions.inMessage
      ++ " \x7d"
  | .abandoned => "Abandoned"

end MetricFeed
