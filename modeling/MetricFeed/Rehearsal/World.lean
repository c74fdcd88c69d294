/-
MetricFeed/Rehearsal/World.lean

A world to rehearse in: a broker in memory, clients in front of it whose answers can be scripted,
and sources of metrics whose readings are set by hand.  It is the state of the surroundings of all
loops and agents of a rehearsal.

A scripted call may hang, take time, panic or fail; otherwise it reaches the broker when its time
has come.  The script that counts is the one in force when the call is made.
-/
import MetricFeed.Agent.Closing
import MetricFeed.Broker.Delivery
import MetricFeed.Metric.Wire
import MetricFeed.Reporting.Exposition

namespace MetricFeed.Rehearsal

/-! ### Scripts -/

/-- How a client's method behaves, in front of the broker. -/
structure Script (ε : Type) where
  hangs : Bool := false
  delay : Option Duration := none
  panics : Bool := false
  fault : Option ε := none
  deriving Inhabited

/-- The methods of the administrative client. -/
inductive AdminMethod
  | createTopic
  | describeConfig
  | alterConfig
  | describeTopic
  | increasePartitions
  | close
  | connect
  deriving DecidableEq

/-- The methods of the producer client. -/
inductive ProducerMethod
  | send
  | flush
  | close
  | connect
  deriving DecidableEq

/-- The method that a request calls. -/
def AdminMethod.ofRequest : AdminRequest → AdminMethod
  | .createTopic _ => .createTopic
  | .describeConfig _ => .describeConfig
  | .alterConfig _ _ => .alterConfig
  | .describeTopic _ => .describeTopic
  | .increasePartitions _ _ => .increasePartitions
  | .close _ => .close

/-- What a scripted panic says. -/
def panicMessage : String := "scripted panic"

/-- A call under a script: `reach` is what the broker does when it is reached. -/
def Script.flight {S ε α : Type} (script : Script ε) (reach : S → Except ε α × S) :
    Flight S (Except ε α) :=
  { delay := if script.hangs then none else some (script.delay.getD ⟨0⟩)
    finish := fun s =>
      if script.panics then (.panicked panicMessage, s)
      else
        match script.fault with
        | some fault => (.value (.error fault), s)
        | none =>
          let (answer, s) := reach s
          (.value answer, s) }

/-! ### Sources of metrics -/

/-- What happens when a gauge is read. -/
inductive GaugeMode
  | normal
  | panic
  | panicOnce
  /-- The reading tells the session's loops to stop. -/
  | cancel
  deriving DecidableEq

/-- A gauge whose reading is set by hand. -/
structure Gauge where
  id : MetricId
  value : Float
  mode : GaugeMode := .normal

/-- A handle to a gauge: its identity and its place among all gauges. -/
structure Handle where
  id : MetricId
  place : Nat

/-- Where a loop finds legacy metrics. -/
inductive LegacySource
  | none
  | list
  | families (group : String)
  deriving DecidableEq

/-! ### Channels -/

/-- Whom the outcome of a record concerns. -/
inductive Ticket
  /-- A record that was sent without a channel. -/
  | direct (key : String)
  | sample (channel : Nat) (sample : Sample)

/-- A channel's place in the world. -/
structure ChannelState where
  topic : String
  failures : Nat := 0
  closed : Bool := false
  deriving Inhabited

/-! ### The world -/

/-- The state of the surroundings in a rehearsal. -/
structure World where
  broker : Broker Ticket := {}
  log : Array Notice := #[]
  /-- The tokens by which loops have been told to stop. -/
  cancelled : List Nat := []
  adminScripts : Table AdminMethod (Script AdminFault) := {}
  producerScripts : Table ProducerMethod (Script PublishFault) := {}
  /-- The sample types that cannot be serialized, and why. -/
  unserializable : List String × String := ([], "")
  gauges : Array Gauge := #[]
  /-- The gauges that are known by a name. -/
  gaugeNames : Table String Nat := {}
  cpu : Option Float := none
  legacy : List LegacyMetric := []
  legacyFailure : Option (Nat × String) := none
  families : List Family := []
  channels : Array ChannelState := #[]
  intakes : Array (Intake Handle) := #[]
  /-- Outcomes of records sent without a channel that have not been reported. -/
  completed : Array (String × Broker.Outcome) := #[]

namespace World

def note (n : Notice) (w : World) : World :=
  { w with log := w.log.push n }

def noteAll (ns : List Notice) (w : World) : World :=
  ns.foldl (fun w n => w.note n) w

/-- Tells the loops of a token to stop. -/
def cancel (token : Nat) (w : World) : World :=
  { w with cancelled := token :: w.cancelled }

/-! ### Setting the scene -/

/-- Scripts a method of the administrative client, in place of its earlier script. -/
def scriptAdmin (m : AdminMethod) (script : Script AdminFault) (w : World) : World :=
  { w with adminScripts := w.adminScripts.insert m script }

/-- Scripts a method of the producer client, in place of its earlier script. -/
def scriptProducer (m : ProducerMethod) (script : Script PublishFault) (w : World) : World :=
  { w with producerScripts := w.producerScripts.insert m script }

/-- Lets samples of the given types fail to serialize, for the given reason. -/
def refuseTypes (types : List String) (reason : String) (w : World) : World :=
  { w with unserializable := (types, reason) }

/-- Sets the host's utilization. -/
def setUtilization (cpu : Option Float) (w : World) : World :=
  { w with cpu }

/-- Sets the list of legacy metrics, and after how many of them the walk fails, if it does. -/
def setLegacy (metrics : List LegacyMetric) (failure : Option (Nat × String)) (w : World) :
    World :=
  { w with legacy := metrics, legacyFailure := failure }

/-- Sets the families of legacy metrics. -/
def setFamilies (families : List Family) (w : World) : World :=
  { w with families }

/-- Puts a topic in place. -/
def addTopic (name : String) (partitions : Nat) (configs : TextMap) (w : World) : World :=
  { w with broker := w.broker.withTopic name partitions configs }

/-- Lets the next deliveries fail. -/
def failSends (count : Nat) (w : World) : World :=
  { w with broker := { w.broker with failNextSends := count } }

/-- Lets all administrative requests fail, or none. -/
def failAdmin (fault : Option AdminFault) (w : World) : World :=
  { w with broker := { w.broker with adminFault := fault } }

/-! ### Intakes and gauges -/

def intake (place : Nat) (w : World) : Intake Handle :=
  w.intakes.getD place { interest := fun _ => false }

def setIntake (place : Nat) (intake : Intake Handle) (w : World) : World :=
  { w with intakes := w.intakes.setIfInBounds place intake }

/-- Makes a gauge known by a name; an earlier one of that name is no longer known by it. -/
def makeGauge (name : String) (gauge : Gauge) (w : World) : Handle × World :=
  let place := w.gauges.size
  (⟨gauge.id, place⟩,
    { w with gauges := w.gauges.push gauge, gaugeNames := w.gaugeNames.insert name place })

/-- The handle of the gauge that is known by a name. -/
def handle? (name : String) (w : World) : Option Handle := do
  let place ← w.gaugeNames.get? name
  let gauge ← w.gauges[place]?
  return ⟨gauge.id, place⟩

/-- Sets the reading of a gauge. -/
def setGauge (name : String) (value : Option Float) (mode : GaugeMode) (w : World) : World :=
  match w.gaugeNames.get? name with
  | none => w
  | some place =>
    { w with gauges := w.gauges.modify place fun g => { g with value := value.getD g.value, mode } }

/-- The token of a session's own loops. -/
def sessionToken : Nat := 0

/-- Reads a gauge. -/
def readGauge (h : Handle) (w : World) : Reply Float × World :=
  match w.gauges[h.place]? with
  | none => (.panicked "no such gauge", w)
  | some g =>
    match g.mode with
    | .normal => (.value g.value, w)
    | .panic => (.panicked panicMessage, w)
    | .panicOnce =>
      (.panicked panicMessage,
        { w with gauges := w.gauges.modify h.place fun g => { g with mode := .normal } })
    | .cancel => (.value g.value, w.cancel sessionToken)

/-! ### Settling deliveries -/

def channelState (place : Nat) (w : World) : ChannelState :=
  w.channels.getD place default

def modifyChannel (place : Nat) (f : ChannelState → ChannelState) (w : World) : World :=
  { w with channels := w.channels.modify place f }

/-- Serializes a sample, unless its type has been made to fail. -/
def serialize (sample : Sample) (w : World) : Except PublishFault String :=
  if w.unserializable.1.contains sample.metricType then
    .error (.serialization w.unserializable.2)
  else .ok sample.encode

/-- The script of a method of the producer client. -/
def producerScript (m : ProducerMethod) (w : World) : Script PublishFault :=
  (w.producerScripts.get? m).getD {}

/-- The script of a method of the administrative client. -/
def adminScript (m : AdminMethod) (w : World) : Script AdminFault :=
  (w.adminScripts.get? m).getD {}

/-- The count of a channel's failed deliveries. -/
def failureCounter (place : Nat) : FailureCounter World where
  failures w := (w.channelState place).failures
  setFailures n := modifyChannel place fun c => { c with failures := n }
  note := note

/-- Hands the outcome of a record to whom it concerns. -/
def settle (ticket : Ticket) (outcome : Broker.Outcome) (w : World) : World :=
  match ticket with
  | .direct key => { w with completed := w.completed.push (key, outcome) }
  | .sample place sample => (failureCounter place).settle sample outcome w

def settleAll (outcomes : List (Ticket × Broker.Outcome)) (w : World) : World :=
  outcomes.foldl (fun w (ticket, outcome) => w.settle ticket outcome) w

/-- Takes the outcomes of records sent without a channel. -/
def takeCompleted (w : World) : List (String × Broker.Outcome) × World :=
  (w.completed.toList, { w with completed := #[] })

/-- Takes the log, which starts anew. -/
def takeLog (w : World) : List Notice × World :=
  (w.log.toList, { w with log := #[] })

/-! ### The broker behind the clients -/

/-- Lets the broker answer a request. -/
def reachAdmin (r : AdminRequest) (w : World) : Except AdminFault r.Answer × World :=
  let (answer, broker) := w.broker.handle r
  (answer, { w with broker }.noteAll (Broker.noticesOf r answer))

/-- Lets the broker deliver what is pending. -/
def reachFlush (w : World) : Except PublishFault Unit × World :=
  let (outcomes, broker) := w.broker.flush
  (.ok (), { w with broker }.settleAll outcomes)

/-- Sends a record without a channel. -/
def sendDirect (r : Record) (w : World) : Except PublishFault Unit × World :=
  let (answer, broker) := w.broker.send r (.direct r.key)
  (answer, { w with broker })

/-- Lets the broker close its producer. -/
def reachClose (w : World) : Except PublishFault Unit × World :=
  let (outcomes, broker) := w.broker.closeProducer
  (.ok (), ({ w with broker }.settleAll outcomes).note .brokerProducerClosed)

/-- Lets a client connect to the broker. -/
def reachConnect (kind : ClientKind) (settings : ProducerSettings) (w : World) :
    Except String Unit × World :=
  match w.broker.connect kind settings with
  | (.ok connection, broker) =>
    (.ok (), { w with broker }.note (.clientConnected kind connection.clientId))
  | (.error reason, broker) => (.error reason, { w with broker })

/-- Lets a producer client connect. -/
def connectProducer (settings : ProducerSettings) (w : World) :
    Except PublishFault Unit × World :=
  let (answer, w) := w.reachConnect .producer settings
  (answer.mapError .configuration, w)

/-- Lets an administrative client connect. -/
def connectAdmin (settings : ProducerSettings) (w : World) : Except AdminFault Unit × World :=
  let (answer, w) := w.reachConnect .admin settings
  (answer.mapError .invalidRequest, w)

/-- The broker itself as an agent gets its clients. -/
def brokerClients : ClientFactory World where
  producer := connectProducer
  admin := connectAdmin

/-! ### The scripted clients -/

/-- The scripted administrative client. -/
def administration : Administration World := fun r w =>
  ((w.adminScript (.ofRequest r)).flight (reachAdmin r), w)

/-- The scripted producer client, for records of a channel. -/
def producer (place : Nat) : Producer World where
  send record sample w :=
    match (w.producerScript .send).fault with
    | some fault => (.value (.error fault), w)
    | none =>
      let (answer, broker) := w.broker.send record (.sample place sample)
      (.value answer, { w with broker })
  flush w := ((w.producerScript .flush).flight reachFlush, w)
  close _ w := ((w.producerScript .close).flight reachClose, w)

/-- A channel through the scripted producer client. -/
def channel (place : Nat) (topic : String) : Channel World where
  toFailureCounter := failureCounter place
  topic
  serialize sample w := (.value (w.serialize sample), w)
  producer := producer place
  isClosed w := (w.channelState place).closed
  markClosed := modifyChannel place fun c => { c with closed := true }

/-- The scripted clients as an agent gets them. -/
def clients : ClientFactory World where
  producer settings w :=
    match (w.producerScript .connect).fault with
    | some fault => (.error fault, w)
    | none => brokerClients.producer settings w
  admin settings w :=
    match (w.adminScript .connect).fault with
    | some fault => (.error fault, w)
    | none => brokerClients.admin settings w

/-! ### Surroundings of a loop -/

/-- The walk over a list of metrics, which may be made to fail after some of them. -/
def listWalk (w : World) : Walk :=
  match w.legacyFailure with
  | none => { metrics := w.legacy }
  | some (count, reason) => { metrics := w.legacy.take count, ending := .failed reason }

/-- The walk over gathered families. -/
def familiesWalk (group : String) (w : World) : Walk :=
  Exposition.walk group (Exposition.gather w.families)

/-- The walk over a loop's source of legacy metrics. -/
def walkOf : LegacySource → Option (World → Walk × World)
  | .none => none
  | .list => some fun w => (w.listWalk, w)
  | .families group => some fun w => (w.familiesWalk group, w)

/-- What a loop is given in this world. -/
def surroundings (channelPlace : Nat) (topic : String) (intakePlace token : Nat)
    (brokerGroups : List String) (source : LegacySource) : Surroundings World Handle where
  note := note
  cancelled w := w.cancelled.contains token
  walk := walkOf source
  registered w := (w.intake intakePlace).snapshot
  idOf h := h.id
  read := readGauge
  converter := Converter.standard brokerGroups fun w => (.value w.cpu, w)
  channel := channel channelPlace topic
  admin := administration
  favoursCall w := (false, w)

end World

end MetricFeed.Rehearsal
