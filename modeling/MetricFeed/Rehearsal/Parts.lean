/-
MetricFeed/Rehearsal/Parts.lean

Turns that rehearse one part of the agent: its channel, its provisioner, its intake or its
reporting loop.
-/
import MetricFeed.Rehearsal.Session

namespace MetricFeed.Rehearsal.Session

/-! ### The channel -/

/-- A channel to a topic, with its place. -/
def newChannel (topic : String) (w : World) : Nat × World :=
  (w.channels.size, { w with channels := w.channels.push { topic } })

/-- Opens a channel, which becomes the session's. -/
def openChannel (topic : String) : Turn Unit := do
  let place ← ask (newChannel topic)
  modify fun s => { s with channel? := some place }

/-- The session's channel. -/
def currentChannel : Turn (Option (Channel World)) := do
  match (← get).channel? with
  | none => return none
  | some place => return some (World.channel place (← view (·.channelState place)).topic)

/-- Hands a sample to the channel. -/
def sendSample (sample : Sample) : Turn (Option (Reply (Except PublishFault Unit))) := do
  match ← currentChannel with
  | none => return none
  | some channel => return some (← ask (channel.publish sample))

/-- Waits for all pending records of the producer to be delivered. -/
def flushChannel : Turn (Option (Reply (Except PublishFault Unit))) := do
  match ← currentChannel with
  | none => return none
  | some channel =>
    let flight ← ask channel.producer.flush
    awaitCall (fun _ call w => call.finish w) (flight.await (← get).scheduler.now none)

/-- The failed deliveries since they were last taken. -/
def failures : Turn (Option Nat) := do
  match ← currentChannel with
  | none => return none
  | some channel => return some (← view channel.failures)

/-- Takes the count of failed deliveries. -/
def takeFailures : Turn (Option Nat) := do
  match ← currentChannel with
  | none => return none
  | some channel => return some (← ask channel.takeFailures)

/-- Counts one more failed delivery, and yields the count. -/
def countFailure : Turn (Option Nat) := do
  match ← currentChannel with
  | none => return none
  | some channel =>
    change fun w => channel.setFailures (channel.failures w + 1) w
    return some (← view channel.failures)

/-- Closes the channel. -/
def closeChannel (timeout : Duration) : Turn (Option (Reply Unit)) := do
  match ← currentChannel with
  | none => return none
  | some channel =>
    let now := (← get).scheduler.now
    match ← ask (channel.beginClose timeout now) with
    | none => return some (.value ())
    | some call => awaitCall (channel.finishClose timeout) call

/-! ### The provisioner -/

/-- Makes a provisioner, unless the counts make up no shape. -/
def makeProvisioner (wanted : TopicSettings) (timeout : Option Duration) :
    Turn (Except SettingFault TopicSpec) := do
  match wanted.spec with
  | .error fault => return .error fault
  | .ok spec =>
    let provisioner : Provisioner :=
      { spec, timeout := timeout.getD Provisioning.requestTimeout }
    modify fun s => { s with provisioner? := some provisioner }
    return .ok spec

/-- Creates the topic or brings it in line. -/
def provision : Turn (Option (Reply ProvisionOutcome)) := do
  match (← get).provisioner? with
  | none => return none
  | some p => hold (Provisioning.provision p.spec) p.timeout .creating

/-- Creates the topic. -/
def createTopic : Turn (Option (Reply (Except AdminFault Unit))) := do
  match (← get).provisioner? with
  | none => return none
  | some p => hold (Provisioning.createTopic p.spec) p.timeout ()

/-- Brings an existing topic in line. -/
def reconcile : Turn (Option (Reply ProvisionOutcome)) := do
  match (← get).provisioner? with
  | none => return none
  | some p => hold (Provisioning.provision p.spec) p.timeout Provisioning.reconciling

/-- Brings the configuration of an existing topic in line. -/
def updateConfig : Turn (Option (Reply ConfigOutcome)) := do
  match (← get).provisioner? with
  | none => return none
  | some p => hold (Provisioning.updateConfig p.spec) p.timeout .describing

/-- Brings the partition count of an existing topic in line. -/
def growPartitions : Turn (Option (Reply PartitionOutcome)) := do
  match (← get).provisioner? with
  | none => return none
  | some p => hold (Provisioning.growPartitions p.spec) p.timeout .measuring

/-- Closes the administrative client. -/
def release (timeout : Duration) : Turn (Option (Reply Unit)) := do
  match (← get).provisioner? with
  | none => return none
  | some _ =>
    let now := (← get).scheduler.now
    let call ← ask (Provisioning.beginRelease World.administration timeout now)
    awaitCall (Provisioning.finishRelease World.note timeout) call

/-! ### The intake -/

/-- An intake, with its place. -/
def newIntake (interest : Interest) (w : World) : Nat × World :=
  (w.intakes.size, { w with intakes := w.intakes.push { interest } })

/-- Opens an intake, which becomes the session's. -/
def openIntake (interest : Interest) : Turn Unit := do
  let place ← ask (newIntake interest)
  modify fun s => { s with intake? := some place }

/-- A gauge that a turn speaks of: one that is made under a name, or one that has that name. -/
structure GaugeChoice where
  name : String
  made? : Option Gauge

/-- The handle of a gauge. -/
def handleOf (choice : GaugeChoice) : Turn (Option Handle) :=
  match choice.made? with
  | some gauge => return some (← ask (World.makeGauge choice.name gauge))
  | none => view (World.handle? choice.name)

/-- Offers a metric to the intake, and yields whether it is of interest. -/
def add (choice : GaugeChoice) : Turn (Option Bool) := do
  match (← get).intake?, ← handleOf choice with
  | some place, some handle =>
    let intake ← view (World.intake place)
    change (World.noteAll (intake.offerNotices handle.id))
    let (kept, intake) := intake.add handle.id handle
    change (World.setIntake place intake)
    return some kept
  | _, _ => return none

/-- Removes a metric from the intake, and yields whether it was registered. -/
def remove (id : MetricId) : Turn (Option Bool) := do
  match (← get).intake? with
  | none => return none
  | some place =>
    let (held, intake) := (← view (World.intake place)).remove id
    change (World.setIntake place intake)
    return some held

/-! ### The loop -/

/-- What a loop is started with. -/
structure LoopRequest where
  nodeId : Int32
  interval : Duration
  originMs : Int64
  brokerGroups : List String
  source : LegacySource := .none

/-- Starts a loop with the session's intake and channel, and with its provisioner, which the
session no longer has afterwards.  The loop's clock starts now. -/
def startLoop (r : LoopRequest) : Turn (Option Unit) := do
  let s ← get
  match ← currentChannel, s.channel?, s.intake? with
  | some channel, some channelPlace, some intakePlace =>
    let base : LoopSetup :=
      { nodeId := r.nodeId, interval := r.interval, clock := ⟨r.originMs, s.scheduler.now⟩ }
    let setup : LoopSetup :=
      match s.provisioner? with
      | none => base
      | some p => { base with topic? := some p.spec, requestTimeout := p.timeout }
    let (task, scheduler) := s.scheduler.spawn setup
      (World.surroundings channelPlace channel.topic intakePlace World.sessionToken
        r.brokerGroups r.source)
    set { s with scheduler, loop? := some task, provisioner? := none }
    return some ()
  | _, _, _ => return none

/-- Tells the session's loops to stop. -/
def cancel : Turn Unit :=
  change (World.cancel World.sessionToken)

/-- Whether the loop has ended. -/
def loopFinished : Turn (Option Bool) := do
  let s ← get
  return s.loop?.map fun task => (s.scheduler.result? task).isSome

/-- Waits for the loop to end. -/
def join : Turn (Option TaskResult) := do
  match (← get).loop? with
  | none => return none
  | some task => await .forTask task

end MetricFeed.Rehearsal.Session
