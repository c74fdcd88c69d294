/-
MetricFeed/Reporting/Channel.lean

The channel through which samples go to the metrics topic.  A sample is serialized and handed to
the producer; its delivery is settled later, and failed deliveries are counted until the count is
taken.  The channel is closed once; closing it again does nothing.
-/
import MetricFeed.Broker.Basic
import MetricFeed.Reporting.Call

namespace MetricFeed

/-- The producer client, as the surroundings provide it. -/
structure Producer (S : Type) where
  /-- Accepts a record without waiting; its outcome concerns the given sample. -/
  send : Record → Sample → S → Reply (Except PublishFault Unit) × S
  flush : S → Flight S (Except PublishFault Unit) × S
  close : Duration → S → Flight S (Except PublishFault Unit) × S

/-- A count of failed deliveries, with its place in the state of the surroundings, and the log
that they are entered in. -/
structure FailureCounter (S : Type) where
  /-- The count since it was last taken. -/
  failures : S → Nat
  setFailures : Nat → S → S
  note : Notice → S → S

/-- A channel to the metrics topic, with its place in the state of the surroundings. -/
structure Channel (S : Type) extends FailureCounter S where
  topic : String
  serialize : Sample → S → Reply (Except PublishFault String) × S
  producer : Producer S
  isClosed : S → Bool
  markClosed : S → S

variable {S : Type}

/-! ### Failed deliveries -/

namespace FailureCounter

/-- What the outcome of a sample's delivery leads to: a failure is counted. -/
def settle (c : FailureCounter S) (sample : Sample) (outcome : Except PublishFault Placement)
    (s : S) : S :=
  match outcome with
  | .ok _ => s
  | .error fault => c.note (.deliveryFailed sample fault) (c.setFailures (c.failures s + 1) s)

/-- Takes the count of failed deliveries, which starts anew. -/
def takeFailures (c : FailureCounter S) (s : S) : Nat × S :=
  (c.failures s, c.setFailures 0 s)

end FailureCounter

/-! ### Publishing -/

namespace Channel

/-- How long the producer may take to close. -/
def closeTimeout : Duration := .ofSeconds 5

/-- The record of a sample: it goes to the channel's topic under the sample's key and bears the
sample's own time. -/
def record (c : Channel S) (sample : Sample) (payload : String) : Record :=
  ⟨c.topic, sample.key, sample.timeMs, payload⟩

/-- Serializes a sample and hands it to the producer. -/
def publish (c : Channel S) (sample : Sample) (s : S) : Reply (Except PublishFault Unit) × S :=
  match c.serialize sample s with
  | (.panicked message, s) => (.panicked message, s)
  | (.value (.error fault), s) => (.value (.error fault), s)
  | (.value (.ok payload), s) =>
    c.producer.send (c.record sample payload) sample (c.note (.sending sample) s)

/-! ### Closing -/

/-- Begins to close the producer, unless the channel is closed already. -/
def beginClose (c : Channel S) (timeout : Duration) (now : Nat) (s : S) :
    Option (Call S (Except PublishFault Unit)) × S :=
  if c.isClosed s then (none, s)
  else
    let (flight, s) := c.producer.close timeout (c.markClosed s)
    (some (flight.await now (some timeout)), s)

/-- What is said about the closing of the producer; `none` when it was not closed in time. -/
def closeNotice (timeout : Duration) : Option (Except PublishFault Unit) → Notice
  | some (.ok _) => .producerClosed
  | some (.error fault) => .producerCloseFailed fault
  | none => .producerCloseTimedOut timeout

/-- Takes the answer of the closing, or gives it up. -/
def finishClose (c : Channel S) (timeout : Duration) (now : Nat)
    (call : Call S (Except PublishFault Unit)) (s : S) : Reply Unit × S :=
  if call.isAnswered now then
    match call.finish s with
    | (.value answer, s) => (.value (), c.note (closeNotice timeout (some answer)) s)
    | (.panicked message, s) => (.panicked message, s)
  else (.value (), c.note (closeNotice timeout none) s)

end Channel

end MetricFeed
