/-
MetricFeed/Reporting/Provisioning.lean

Bringing the metrics topic into its wanted shape.  The topic is created; if it exists already, its
configuration and then its partition count are brought in line, each as far as possible and
independently of the other.  Every request may be repeated by other agents at any time: creating
what exists is no failure, configuration is changed by what differs, and partitions are only ever
added.
-/
import MetricFeed.Reporting.Dialogue

namespace MetricFeed

namespace Provisioning

/-- How long each administrative request may take. -/
def requestTimeout : Duration := .ofSeconds 10

/-- How long the administrative client may take to close. -/
def closeTimeout : Duration := .ofSeconds 10

/-! ### The topic's configuration -/

/-- Steps that bring the configuration in line. -/
inductive ConfigStep
  | describing
  | altering (changes : List ConfigChange)
  deriving DecidableEq

def ConfigStep.request (spec : TopicSpec) : ConfigStep → AdminRequest
  | .describing => .describeConfig spec.name
  | .altering changes => .alterConfig spec.name changes

def ConfigStep.next (spec : TopicSpec) : (s : ConfigStep) →
    Except AdminFault (s.request spec).Answer → List Notice × (ConfigStep ⊕ ConfigOutcome)
  | .describing, .error fault => ([.configUnknown spec.name fault], .inr .failed)
  | .describing, .ok live =>
    match spec.drift live with
    | [] => ([.configUpToDate spec.name], .inr .unchanged)
    | change :: rest => ([], .inl (.altering (change :: rest)))
  | .altering _, .error fault => ([.configNotUpdated spec.name fault], .inr .failed)
  | .altering changes, .ok _ =>
    let keys := changes.map (·.key)
    ([.configUpdated spec.name keys], .inr (.altered keys))

/-- Brings the configuration in line. -/
def updateConfig (spec : TopicSpec) : Dialogue ConfigStep ConfigOutcome :=
  ⟨ConfigStep.request spec, ConfigStep.next spec⟩

/-! ### The topic's partitions -/

/-- Steps that bring the partition count in line. -/
inductive PartitionStep
  | measuring
  | growing (before : Nat)
  deriving DecidableEq

def PartitionStep.request (spec : TopicSpec) : PartitionStep → AdminRequest
  | .measuring => .describeTopic spec.name
  | .growing _ => .increasePartitions spec.name spec.partitions

def PartitionStep.next (spec : TopicSpec) : (s : PartitionStep) →
    Except AdminFault (s.request spec).Answer → List Notice × (PartitionStep ⊕ PartitionOutcome)
  | .measuring, .error fault =>
    ([.partitionsNotIncreased spec.name spec.partitions fault], .inr .failed)
  | .measuring, .ok layout =>
    if spec.partitions ≤ layout.partitions then ([], .inr (.unchanged layout.partitions))
    else ([], .inl (.growing layout.partitions))
  | .growing _, .error fault =>
    ([.partitionsNotIncreased spec.name spec.partitions fault], .inr .failed)
  | .growing before, .ok _ =>
    ([.partitionsIncreased spec.name before spec.partitions],
      .inr (.increased before spec.partitions))

/-- Brings the partition count in line. -/
def growPartitions (spec : TopicSpec) : Dialogue PartitionStep PartitionOutcome :=
  ⟨PartitionStep.request spec, PartitionStep.next spec⟩

/-! ### The topic as a whole -/

/-- Creates the topic. -/
def createTopic (spec : TopicSpec) : Dialogue Unit (Except AdminFault Unit) where
  request _ := .createTopic spec
  next _ answer :=
    match answer with
    | .ok _ => ([.topicCreated spec.name spec.partitions spec.replication], .inr (.ok ()))
    | .error fault => ([], .inr (.error fault))

/-- Steps that create the topic or bring it in line. -/
inductive Step
  | creating
  | config (step : ConfigStep)
  | partitions (configured : ConfigOutcome) (step : PartitionStep)
  deriving DecidableEq

def Step.request (spec : TopicSpec) : Step → AdminRequest
  | .creating => .createTopic spec
  | .config step => step.request spec
  | .partitions _ step => step.request spec

def Step.next (spec : TopicSpec) : (s : Step) →
    Except AdminFault (s.request spec).Answer → List Notice × (Step ⊕ ProvisionOutcome)
  | .creating, .ok _ =>
    ([.topicCreated spec.name spec.partitions spec.replication], .inr .created)
  | .creating, .error (.topicExists _) =>
    ([.topicExists spec.name], .inl (.config .describing))
  | .creating, .error fault => ([.topicNotCreated spec.name fault], .inr .abandoned)
  | .config step, answer =>
    match step.next spec answer with
    | (notices, .inl step) => (notices, .inl (.config step))
    | (notices, .inr outcome) => (notices, .inl (.partitions outcome .measuring))
  | .partitions configured step, answer =>
    match step.next spec answer with
    | (notices, .inl step) => (notices, .inl (.partitions configured step))
    | (notices, .inr outcome) => (notices, .inr (.reconciled configured outcome))

/-- Creates the topic, or brings an existing one in line.  It always comes to an end with an
outcome; what went wrong is said in the log. -/
def provision (spec : TopicSpec) : Dialogue Step ProvisionOutcome :=
  ⟨Step.request spec, Step.next spec⟩

/-- The step with which an existing topic begins to be brought in line. -/
def reconciling : Step := .config .describing

/-! ### Releasing the administrative client -/

/-- Begins to close the administrative client. -/
def beginRelease {S : Type} (admin : Administration S) (timeout : Duration) (now : Nat) (s : S) :
    Call S (Except AdminFault Unit) × S :=
  let (flight, s) := admin (.close timeout) s
  (flight.await now (some timeout), s)

/-- What is said about the closing of the client; `none` when it was not closed in time. -/
def releaseNotice (timeout : Duration) : Option (Except AdminFault Unit) → Notice
  | some (.ok _) => .adminClosed
  | some (.error fault) => .adminCloseFailed fault
  | none => .adminCloseTimedOut timeout

/-- Takes the answer of the closing, or gives it up. -/
def finishRelease {S : Type} (note : Notice → S → S) (timeout : Duration) (now : Nat)
    (call : Call S (Except AdminFault Unit)) (s : S) : Reply Unit × S :=
  if call.isAnswered now then
    match call.finish s with
    | (.value answer, s) => (.value (), note (releaseNotice timeout (some answer)) s)
    | (.panicked message, s) => (.panicked message, s)
  else (.value (), note (releaseNotice timeout none) s)

end Provisioning

end MetricFeed
