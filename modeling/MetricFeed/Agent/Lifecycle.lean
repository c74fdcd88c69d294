/-
MetricFeed/Agent/Lifecycle.lean

The agent as its host sees it: it is configured with its clients, started with the metrics that
exist by then, told of metrics that come and go, and closed.  At most one loop is ever started;
the provisioning of the topic belongs to the loop once it is started.
-/
import MetricFeed.Agent.Scheduler
import MetricFeed.Reporting.Intake
import MetricFeed.Settings.Agent

namespace MetricFeed

/-- How the agent gets its clients. -/
structure ClientFactory (S : Type) where
  producer : ProducerSettings → S → Except PublishFault Unit × S
  admin : ProducerSettings → S → Except AdminFault Unit × S

/-- Why there is no agent. -/
inductive SetupFailure
  | settings (failure : LoadFailure)
  | producer (fault : PublishFault)

def SetupFailure.message : SetupFailure → String
  | .settings failure => failure.message
  | .producer fault => "Failed to create metrics producer: " ++ fault.message

/-- A configured agent, with its place in the state of the surroundings. -/
structure Agent (S H : Type) where
  settings : Settings
  clock : Clock
  /-- What the agent's loop is given. -/
  surroundings : Surroundings S H
  intake : S → Intake H
  setIntake : Intake H → S → S
  /-- Tells the agent's loop to stop. -/
  cancel : S → S
  /-- The wanted shape of the topic, while no loop has been started to provision it. -/
  spareTopic? : Option TopicSpec
  /-- The task of the agent's loop, from its start until the agent is closed. -/
  runner? : Option Nat := none

namespace Agent

variable {S H : Type}

/-! ### Configuration -/

/-- The shape of the topic that the agent will provision, if it is to do so and gets a client for
it.  Whatever stands against it is said in the log. -/
def provisionable (factory : ClientFactory S) (note : Notice → S → S) (settings : Settings)
    (s : S) : Option TopicSpec × S :=
  if settings.topic.autoCreate then
    match settings.topic.spec with
    | .error fault => (none, note (.provisioningDisabledBySettings fault) s)
    | .ok spec =>
      match factory.admin settings.producer s with
      | (.ok (), s) => (some spec, s)
      | (.error fault, s) => (none, note (.provisioningDisabledByClient fault) s)
  else (none, s)

/-- Gets the clients: without a producer there is no agent, without an administrative client
only no provisioning. -/
def connect (factory : ClientFactory S) (note : Notice → S → S) (settings : Settings) (s : S) :
    Except PublishFault (Option TopicSpec) × S :=
  match factory.producer settings.producer s with
  | (.error fault, s) => (.error fault, s)
  | (.ok (), s) =>
    let (spec?, s) := provisionable factory note settings s
    (.ok spec?, s)

/-! ### Metrics that come and go -/

/-- Registers a metric if it is of interest. -/
def offer (a : Agent S H) (handle : H) (s : S) : S :=
  let id := a.surroundings.idOf handle
  let intake := a.intake s
  let s := (intake.offerNotices id).foldl (fun s n => a.surroundings.note n s) s
  a.setIntake (intake.add id handle).2 s

/-- Removes a metric. -/
def withdraw (a : Agent S H) (id : MetricId) (s : S) : S :=
  a.setIntake ((a.intake s).remove id).2 s

/-- The count of registered metrics. -/
def registeredCount (a : Agent S H) (s : S) : Nat :=
  (a.intake s).size

/-! ### Start -/

def isRunning (a : Agent S H) : Bool := a.runner?.isSome

def willProvision (a : Agent S H) : Bool := a.spareTopic?.isSome

/-- What the agent's loop is set up with. -/
def loopSetup (a : Agent S H) : LoopSetup :=
  { nodeId := a.settings.nodeId
    interval := a.settings.interval
    clock := a.clock
    topic? := a.spareTopic? }

/-- Registers the metrics and starts the loop, unless it runs or has been told to stop. -/
def init (a : Agent S H) (handles : List H) (sch : Scheduler S H) : Agent S H × Scheduler S H :=
  if a.isRunning || a.surroundings.cancelled sch.state then
    (a, sch.modify (a.surroundings.note .alreadyStarted))
  else
    let sch := sch.modify fun s => handles.foldl (fun s handle => a.offer handle s) s
    let sch := sch.modify fun s =>
      a.surroundings.note (.initialMetrics (a.registeredCount s)) s
    let (task, sch) := sch.spawn a.loopSetup a.surroundings
    ({ a with runner? := some task, spareTopic? := none }, sch)

end Agent

end MetricFeed
