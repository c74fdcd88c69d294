/-
MetricFeed/Notice.lean

Everything that is said in the log, as events.  An event has a level and a wording; the level and
the wording are functions of the event, so what happened can be read off a log without its texts.
-/
import MetricFeed.Fault
import MetricFeed.Metric.Sample
import MetricFeed.Topic.Reconciliation

namespace MetricFeed

/-- How much an event matters, the least first. -/
inductive Level
  | trace
  | debug
  | info
  | warn
  | error
  deriving DecidableEq, Repr

/-- The place of a level in the order of importance. -/
def Level.rank : Level → Nat
  | .trace => 0
  | .debug => 1
  | .info => 2
  | .warn => 3
  | .error => 4

/-- The word for a level. -/
def Level.word : Level → String
  | .trace => "TRACE"
  | .debug => "DEBUG"
  | .info => "INFO"
  | .warn => "WARN"
  | .error => "ERROR"

/-- The two kinds of clients of a broker. -/
inductive ClientKind
  | producer
  | admin
  deriving DecidableEq, Repr

/-- The word for a kind of client. -/
def ClientKind.word : ClientKind → String
  | .producer => "Producer"
  | .admin => "Admin"

/-- An event worth a line in the log. -/
inductive Notice
  -- settings
  | defaultUsed (key value : String)
  -- broker
  | clientConnected (kind : ClientKind) (clientId : String)
  | brokerCreatedTopic (topic : String)
  | brokerProducerClosed
  -- intake
  | checkingMetric (id : MetricId)
  | metricAdded (id : MetricId)
  -- publishing
  | sending (sample : Sample)
  | deliveryFailed (sample : Sample) (fault : PublishFault)
  | producerClosed
  | producerCloseFailed (fault : PublishFault)
  | producerCloseTimedOut (after : Duration)
  -- legacy metrics
  | processingLegacy (id : MetricId)
  | visitingLegacy (id : MetricId)
  -- provisioning
  | topicExists (topic : String)
  | topicCreated (topic : String) (partitions replication : Nat)
  | topicNotCreated (topic : String) (fault : AdminFault)
  | configUnknown (topic : String) (fault : AdminFault)
  | configUpToDate (topic : String)
  | configUpdated (topic : String) (keys : List String)
  | configNotUpdated (topic : String) (fault : AdminFault)
  | partitionsIncreased (topic : String) (before after : Nat)
  | partitionsNotIncreased (topic : String) (wanted : Nat) (fault : AdminFault)
  | adminClosed
  | adminCloseFailed (fault : AdminFault)
  | adminCloseTimedOut (after : Duration)
  | provisioningFinished (outcome : ProvisionOutcome)
  | provisioningInterrupted
  -- loop
  | loopStarting (interval : Duration)
  | reportingAt (now : Int64)
  | passFailed (now : Int64) (fault : ReportFault)
  | passPanicked (now : Int64)
  | reportingLegacy
  | legacyReported
  | reportingRegistered (count : Nat)
  | convertingRegistered (id : MetricId)
  | registeredReported
  | reportingHost
  | flushInterrupted
  | flushFailed (fault : PublishFault)
  | deliveriesFailed (count : Nat) (now : Int64)
  | reportingFinished (now took next : Int64)
  | loopExited
  -- agent
  | provisioningDisabledBySettings (fault : SettingFault)
  | provisioningDisabledByClient (fault : AdminFault)
  | alreadyStarted
  | initialMetrics (count : Nat)
  | closingAgent
  | loopFailed (panic : String)
  | loopAborted (after : Duration)

namespace Notice

/-- How much an event matters. -/
def level : Notice → Level
  | checkingMetric _ | processingLegacy _ | visitingLegacy _ | convertingRegistered _ => .trace
  | brokerProducerClosed | metricAdded _ | sending _ | topicExists _ | configUpToDate _
  | adminClosed | provisioningFinished _ | reportingAt _ | reportingLegacy | legacyReported
  | reportingRegistered _ | registeredReported | reportingHost | reportingFinished .. => .debug
  | defaultUsed .. | clientConnected .. | brokerCreatedTopic _ | producerClosed | topicCreated ..
  | configUpdated .. | partitionsIncreased .. | provisioningInterrupted | loopStarting _
  | flushInterrupted | loopExited | initialMetrics _ | closingAgent => .info
  | deliveryFailed .. | producerCloseFailed _ | producerCloseTimedOut _ | topicNotCreated ..
  | configUnknown .. | configNotUpdated .. | partitionsNotIncreased .. | adminCloseFailed _
  | adminCloseTimedOut _ | deliveriesFailed .. | provisioningDisabledBySettings _
  | provisioningDisabledByClient _ | alreadyStarted | loopAborted _ => .warn
  | passFailed .. | passPanicked _ | flushFailed _ | loopFailed _ => .error

/-- A time in milliseconds as messages show it. -/
def timeText (t : Int64) : String := toString t.toInt

/-- The wording of an event. -/
def message : Notice → String
  | defaultUsed key value => "Using default value of " ++ value ++ " for " ++ key
  | clientConnected kind clientId =>
    "InMemoryBroker: " ++ kind.word ++ " client " ++ clientId ++ " connected"
  | brokerCreatedTopic topic => "InMemoryBroker: created topic " ++ topic
  | brokerProducerClosed => "InMemoryBroker: producer closed"
  | checkingMetric id => "Checking metric " ++ id.render
  | metricAdded id => "Added new metric " ++ id.render ++ " to the metrics reporter."
  | sending sample => "Sending metric " ++ sample.inMessage ++ "."
  | deliveryFailed sample fault =>
    "Failed to send metric " ++ sample.inMessage ++ ": " ++ fault.message
  | producerClosed => "Metrics producer closed."
  | producerCloseFailed fault => "Failed to close metrics producer: " ++ fault.message
  | producerCloseTimedOut after =>
    "Metrics producer did not close within " ++ after.render ++ ", dropping buffered metrics."
  | processingLegacy id => "Processing legacy metric " ++ id.render
  | visitingLegacy id => "Visiting legacy metric " ++ id.render
  | topicExists topic =>
    "Metrics topic " ++ topic ++ " already exists, reconciling its configuration."
  | topicCreated topic partitions replication =>
    "Metrics topic " ++ topic ++ " is created with " ++ toString partitions
      ++ " partitions (replication factor " ++ toString replication ++ ")."
  | topicNotCreated topic fault =>
    "Unable to create metrics topic " ++ topic ++ ": " ++ fault.message
  | configUnknown topic fault =>
    "Unable to describe config of metrics topic " ++ topic ++ ": " ++ fault.message
  | configUpToDate topic => "Config of metrics topic " ++ topic ++ " is up to date."
  | configUpdated topic keys =>
    "Updated config of metrics topic " ++ topic ++ ": " ++ Text.quotedList keys
  | configNotUpdated topic fault =>
    "Unable to update config of metrics topic " ++ topic ++ ": " ++ fault.message
  | partitionsIncreased topic before after =>
    "Increased metrics topic " ++ topic ++ " partition count from " ++ toString before ++ " to "
      ++ toString after ++ "."
  | partitionsNotIncreased topic wanted fault =>
    "Unable to increase metrics topic " ++ topic ++ " partition count to " ++ toString wanted
      ++ ": " ++ fault.message
  | adminClosed => "Admin client closed."
  | adminCloseFailed fault => "Failed to close admin client: " ++ fault.message
  | adminCloseTimedOut after => "Admin client did not close within " ++ after.render
  | provisioningFinished outcome => "Metrics topic provisioning finished: " ++ outcome.inMessage
  | provisioningInterrupted =>
    "Metrics topic provisioning interrupted due to shutdown request."
  | loopStarting interval =>
    "Starting metrics reporter with reporting interval of " ++ toString interval.wholeMillis
      ++ " ms."
  | reportingAt now => "Reporting metrics for time " ++ timeText now ++ "."
  | passFailed now fault =>
    "Got error in metrics reporter for time " ++ timeText now ++ ": " ++ fault.message
  | passPanicked now => "Metrics reporter panicked while reporting time " ++ timeText now
  | reportingLegacy => "Reporting legacy metrics."
  | legacyReported => "Finished reporting legacy metrics."
  | reportingRegistered count => "Reporting " ++ toString count ++ " registered metrics."
  | convertingRegistered id => "Converting registered metric " ++ id.render
  | registeredReported => "Finished reporting registered metrics."
  | reportingHost => "Reporting host utilization."
  | flushInterrupted =>
    "Metrics reporter is interrupted during flush due to shutdown request."
  | flushFailed fault => "Failed to flush metrics: " ++ fault.message
  | deliveriesFailed count now =>
    "Failed to send " ++ toString count ++ " metrics for time " ++ timeText now
  | reportingFinished now took next =>
    "Reporting finished for time " ++ timeText now ++ " in " ++ timeText took
      ++ " ms. Next reporting time " ++ timeText next
  | loopExited => "Metrics reporter exited."
  | provisioningDisabledBySettings fault =>
    "Metrics topic auto creation was disabled: " ++ fault.message
  | provisioningDisabledByClient fault =>
    "Metrics topic auto creation was disabled: " ++ fault.message
  | alreadyStarted => "Metrics reporter already started, ignoring init."
  | initialMetrics count =>
    "Added " ++ toString count ++ " metrics for the metrics reporter during initialization."
  | closingAgent => "Closing metrics reporter."
  | loopFailed panic =>
    -- the number of a task is no property of the agent: the letter N stands for it
    "Metrics reporter task failed: task N panicked with message " ++ Text.quoted panic
  | loopAborted after =>
    "Metrics reporter did not stop within " ++ after.render ++ ", aborting it."

end Notice

end MetricFeed
