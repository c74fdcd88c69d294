/-
MetricFeed/Broker/Admin.lean

Administrative requests, and how the broker answers them.  Every request is entered in the
journal before anything else; a request that fails changes nothing but the journal.
-/
import MetricFeed.Broker.Basic
import MetricFeed.Settings.Producer

namespace MetricFeed

/-- A request to the broker's administration. -/
inductive AdminRequest
  | createTopic (spec : TopicSpec)
  | describeConfig (topic : String)
  | alterConfig (topic : String) (changes : List ConfigChange)
  | describeTopic (topic : String)
  | increasePartitions (topic : String) (total : Nat)
  /-- Releases the client; the span says how long the caller waits. -/
  | close (timeout : Duration)
  deriving DecidableEq

namespace AdminRequest

/-- What a request is answered with when it succeeds. -/
abbrev Answer : AdminRequest → Type
  | .createTopic _ => Unit
  | .describeConfig _ => TextMap
  | .alterConfig _ _ => Unit
  | .describeTopic _ => TopicLayout
  | .increasePartitions _ _ => Unit
  | .close _ => Unit

/-- The journal's entry for a request. -/
def call : AdminRequest → AdminCall
  | .createTopic spec => .createTopic spec.name
  | .describeConfig topic => .describeConfig topic
  | .alterConfig topic changes => .alterConfig topic changes
  | .describeTopic topic => .describeTopic topic
  | .increasePartitions topic total => .increasePartitions topic total
  | .close _ => .close

end AdminRequest

namespace Broker

variable {τ : Type}

/-- The broker with a request in its journal. -/
def journal (b : Broker τ) (call : AdminCall) : Broker τ :=
  { b with adminCalls := b.adminCalls.push call }

/-- Creates a topic, which must not exist. -/
def createTopic (b : Broker τ) (spec : TopicSpec) : Except AdminFault Unit × Broker τ :=
  match b.topic? spec.name with
  | some _ => (.error (.topicExists spec.name), b)
  | none =>
    let made : StoredTopic :=
      { partitions := spec.partitions, replication := spec.replication, configs := spec.configs }
    (.ok (), { b with topics := b.topics.insert spec.name made })

/-- The configuration of a topic. -/
def describeConfig (b : Broker τ) (topic : String) : Except AdminFault TextMap :=
  match b.topic? topic with
  | some t => .ok t.configs
  | none => .error (.unknownTopic topic)

/-- Changes the configuration of a topic, change by change. -/
def alterConfig (b : Broker τ) (topic : String) (changes : List ConfigChange) :
    Except AdminFault Unit × Broker τ :=
  match b.topic? topic with
  | some t =>
    let altered := { t with configs := applyChanges t.configs changes }
    (.ok (), { b with topics := b.topics.insert topic altered })
  | none => (.error (.unknownTopic topic), b)

/-- The layout of a topic. -/
def describeTopic (b : Broker τ) (topic : String) : Except AdminFault TopicLayout :=
  match b.topic? topic with
  | some t => .ok ⟨topic, t.partitions⟩
  | none => .error (.unknownTopic topic)

/-- Sets the count of a topic's partitions, which never shrinks. -/
def increasePartitions (b : Broker τ) (topic : String) (total : Nat) :
    Except AdminFault Unit × Broker τ :=
  match b.topic? topic with
  | some t =>
    if total < t.partitions then
      (.error (.invalidRequest ("topic " ++ topic ++ " has " ++ toString t.partitions
        ++ " partitions, cannot shrink to " ++ toString total)), b)
    else (.ok (), { b with topics := b.topics.insert topic { t with partitions := total } })
  | none => (.error (.unknownTopic topic), b)

/-- Answers a request that is not made to fail. -/
def answer : (r : AdminRequest) → Broker τ → Except AdminFault r.Answer × Broker τ
  | .createTopic spec, b => b.createTopic spec
  | .describeConfig topic, b => (b.describeConfig topic, b)
  | .alterConfig topic changes, b => b.alterConfig topic changes
  | .describeTopic topic, b => (b.describeTopic topic, b)
  | .increasePartitions topic total, b => b.increasePartitions topic total
  | .close _, b => (.ok (), b)

/-- Whether an arranged fault applies to a request: closing never fails. -/
def faultFor (b : Broker τ) : AdminRequest → Option AdminFault
  | .close _ => none
  | _ => b.adminFault

/-- Answers a request, after entering it in the journal. -/
def handle (b : Broker τ) (r : AdminRequest) : Except AdminFault r.Answer × Broker τ :=
  match b.faultFor r with
  | some fault => (.error fault, b.journal r.call)
  | none => answer r (b.journal r.call)

/-- What the broker says about a request and its answer. -/
def noticesOf : (r : AdminRequest) → Except AdminFault r.Answer → List Notice
  | .createTopic spec, .ok _ => [.brokerCreatedTopic spec.name]
  | _, _ => []

/-! ### Connections -/

/-- Takes in a client, whose settings must name the broker and the client. -/
def connect (b : Broker τ) (kind : ClientKind) (settings : ProducerSettings) :
    Except String Connection × Broker τ :=
  match settings.get? ProducerSettings.bootstrapServers,
      settings.get? ProducerSettings.clientId with
  | none, _ => (.error (ProducerSettings.bootstrapServers ++ " is not set"), b)
  | some _, none => (.error (ProducerSettings.clientId ++ " is not set"), b)
  | some _, some clientId =>
    let connection : Connection := ⟨kind, clientId, settings.properties⟩
    (.ok connection, { b with connections := b.connections.push connection })

/-! ### Requests that fail change nothing but the journal -/

theorem answer_error {r : AdminRequest} {b b' : Broker τ} {fault : AdminFault}
    (h : answer r b = (.error fault, b')) : b' = b := by
  cases r <;> simp only [answer] at h
  · unfold createTopic at h
    split at h <;> simp_all
  · simp_all
  · unfold alterConfig at h
    split at h <;> simp_all
  · simp_all
  · unfold increasePartitions at h
    split at h
    · split at h <;> simp_all
    · simp_all
  · simp_all

theorem handle_error {r : AdminRequest} {b b' : Broker τ} {fault : AdminFault}
    (h : b.handle r = (.error fault, b')) : b' = b.journal r.call := by
  unfold handle at h
  split at h
  · simp_all
  · exact answer_error h

end Broker

end MetricFeed
