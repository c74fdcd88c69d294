/-
MetricFeed/Broker/Basic.lean

A broker held in memory: topics with their configuration and records, records that are accepted
but not yet delivered, and a journal of what was asked of it.  Each pending record carries a
ticket that says whom its outcome concerns.

Failures can be arranged: the next so many deliveries fail, or every administrative request fails
with a given fault.
-/
import MetricFeed.Notice
import MetricFeed.SipHash
import MetricFeed.Table
import MetricFeed.Topic.Spec

namespace MetricFeed

/-! ### Records -/

/-- A keyed message for a topic. -/
structure Record where
  topic : String
  key : String
  timestampMs : Int64
  payload : String
  deriving DecidableEq, Inhabited

/-- Where a delivered record ended up. -/
structure Placement where
  topic : String
  partition : Nat
  offset : Nat
  deriving DecidableEq

/-! ### Topics -/

/-- A topic of the broker. -/
structure StoredTopic where
  partitions : Nat
  replication : Nat
  configs : TextMap
  records : Array Record := #[]
  deriving Inhabited

namespace StoredTopic

/-- The partition of a key: its hash over the count of partitions. -/
def partitionOf (t : StoredTopic) (key : String) : Nat :=
  (SipHash.hashText key).toNat % max t.partitions 1

/-- Appends a record; its offset counts the records of the whole topic. -/
def append (t : StoredTopic) (r : Record) : Placement × StoredTopic :=
  (⟨r.topic, t.partitionOf r.key, t.records.size⟩, { t with records := t.records.push r })

end StoredTopic

/-! ### Clients and the journal -/

/-- A client that has connected, with the settings it was built from. -/
structure Connection where
  kind : ClientKind
  clientId : String
  properties : TextMap
  deriving DecidableEq

/-- An entry of the broker's journal. -/
inductive AdminCall
  | createTopic (topic : String)
  | describeConfig (topic : String)
  | alterConfig (topic : String) (changes : List ConfigChange)
  | describeTopic (topic : String)
  | increasePartitions (topic : String) (total : Nat)
  | close
  deriving DecidableEq

/-! ### The broker -/

/-- A broker whose pending records carry tickets of type `τ`. -/
structure Broker (τ : Type) where
  topics : Table String StoredTopic := {}
  pending : Array (Record × τ) := #[]
  failNextSends : Nat := 0
  adminFault : Option AdminFault := none
  adminCalls : Array AdminCall := #[]
  connections : Array Connection := #[]
  producerClosed : Bool := false
  deriving Inhabited

namespace Broker

variable {τ : Type}

def topic? (b : Broker τ) (name : String) : Option StoredTopic :=
  b.topics.get? name

/-- Puts a topic in place as if somebody else had created it. -/
def withTopic (b : Broker τ) (name : String) (partitions : Nat) (configs : TextMap) :
    Broker τ :=
  { b with topics := b.topics.insert name { partitions, replication := 1, configs } }

/-- The records of a topic, in the order of their delivery. -/
def records (b : Broker τ) (name : String) : Array Record :=
  (b.topic? name).elim #[] (·.records)

end Broker

end MetricFeed
