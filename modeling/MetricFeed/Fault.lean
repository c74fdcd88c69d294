/-
MetricFeed/Fault.lean

What can go wrong, by cause: with settings, with requests to the broker's administration, with
publishing, and with a collection pass.  Each cause has one wording.
-/
import MetricFeed.Duration
import MetricFeed.Text.Quoted

namespace MetricFeed

/-! ### Settings -/

/-- Why settings are refused. -/
inductive SettingFault
  | missing (key : String)
  | invalidValue (key value reason : String)
  | invalidTopicShape (partitions : Int32) (replication : Int16)
  deriving DecidableEq

def SettingFault.message : SettingFault → String
  | .missing key => "Missing required setting: " ++ key
  | .invalidValue key value reason =>
    "Invalid value for " ++ key ++ ": " ++ Text.quoted value ++ " (" ++ reason ++ ")"
  | .invalidTopicShape partitions replication =>
    "The metrics topic configuration must explicitly set the replication factor and the number of"
      ++ " partitions (partitions=" ++ toString partitions.toInt
      ++ ", replication_factor=" ++ toString replication.toInt ++ ")"

/-! ### Administration -/

/-- Why an administrative request failed. -/
inductive AdminFault
  | topicExists (topic : String)
  | unknownTopic (topic : String)
  | timeout (after : Duration)
  | authorization (reason : String)
  | invalidRequest (reason : String)
  | network (reason : String)
  deriving DecidableEq

def AdminFault.message : AdminFault → String
  | .topicExists topic => "Topic " ++ topic ++ " already exists"
  | .unknownTopic topic => "Topic " ++ topic ++ " does not exist"
  | .timeout after => "Admin request timed out after " ++ after.render
  | .authorization reason => "Not authorized: " ++ reason
  | .invalidRequest reason => "Invalid request: " ++ reason
  | .network reason => "Network failure: " ++ reason

/-! ### Publishing -/

/-- Why a sample was not published. -/
inductive PublishFault
  | closed
  | interrupted
  | delivery (topic reason : String)
  | serialization (reason : String)
  | timeout (after : Duration)
  | configuration (reason : String)
  deriving DecidableEq

def PublishFault.message : PublishFault → String
  | .closed => "Producer is closed"
  | .interrupted => "Operation interrupted"
  | .delivery topic reason => "Delivery to " ++ topic ++ " failed: " ++ reason
  | .serialization reason => "Failed to serialize metric: " ++ reason
  | .timeout after => "Producer did not finish within " ++ after.render
  | .configuration reason => "Invalid producer configuration: " ++ reason

/-! ### Collection -/

/-- Why a collection pass ended early. -/
inductive ReportFault
  | publish (fault : PublishFault)
  | conversion (metric reason : String)
  | registry (reason : String)
  deriving DecidableEq

def ReportFault.message : ReportFault → String
  | .publish fault => "Failed to publish metric: " ++ fault.message
  | .conversion metric reason => "Failed to convert metric " ++ metric ++ ": " ++ reason
  | .registry reason => "Legacy registry walk failed: " ++ reason

/-- The fault that a fault of collection passes on. -/
def ReportFault.cause? : ReportFault → Option PublishFault
  | .publish fault => some fault
  | _ => none

end MetricFeed
