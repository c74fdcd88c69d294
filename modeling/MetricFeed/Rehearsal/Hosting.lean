/-
MetricFeed/Rehearsal/Hosting.lean

Turns in which the session is the agent's host: it configures the agent, starts it, tells it of
metrics that come and go, looks at its state and closes it.
-/
import MetricFeed.Rehearsal.Parts

namespace MetricFeed.Rehearsal.Session

/-- What an agent is configured with. -/
structure AgentRequest where
  properties : TextMap
  /-- Settings of the producer that take the place of the loaded ones. -/
  producerProperties : Option TextMap := none
  originMs : Int64
  interest : Interest
  brokerGroups : List String
  source : LegacySource := .none

/-- The settings of an agent. -/
def settingsFor (r : AgentRequest) : Turn (Except LoadFailure Settings) := do
  let (notices, loaded) := Settings.loadNoting (Lookup.ofMap r.properties)
  change (World.noteAll notices)
  return loaded.map fun settings =>
    match r.producerProperties with
    | none => settings
    | some properties => { settings with producer := ⟨properties⟩ }

/-- A token that no other loop has. -/
def freshToken : Turn Nat := do
  let token := (← get).nextToken
  modify fun s => { s with nextToken := token + 1 }
  return token

/-- An agent with a channel, an intake and a token of its own.  Its clock starts now. -/
def assemble (r : AgentRequest) (settings : Settings) (spareTopic? : Option TopicSpec) :
    Turn (Agent World Handle) := do
  let topic := settings.topic.name
  let channelPlace ← ask (newChannel topic)
  let intakePlace ← ask (newIntake r.interest)
  let token ← freshToken
  return {
    settings
    clock := ⟨r.originMs, (← get).scheduler.now⟩
    surroundings :=
      World.surroundings channelPlace topic intakePlace token r.brokerGroups r.source
    intake := World.intake intakePlace
    setIntake := World.setIntake intakePlace
    cancel := World.cancel token
    spareTopic? }

/-- Wires up an agent with the clients of a factory; there is none without a producer. -/
def wire (factory : ClientFactory World) (r : AgentRequest) (settings : Settings) :
    Turn (Except PublishFault (Agent World Handle)) := do
  match ← ask (Agent.connect factory World.note settings) with
  | .error fault => return .error fault
  | .ok spareTopic? =>
    let agent ← assemble r settings spareTopic?
    return .ok agent

/-- Configures an agent, which becomes the session's. -/
def configure (r : AgentRequest) : Turn (Except SetupFailure (Agent World Handle)) := do
  match ← settingsFor r with
  | .error failure => return .error (.settings failure)
  | .ok settings =>
    match ← wire World.clients r settings with
    | .error fault => return .error (.producer fault)
    | .ok agent =>
      modify fun s => { s with agent? := some agent }
      return .ok agent

/-- Does something with the agent. -/
def withAgent {α : Type} (f : Agent World Handle → Turn α) : Turn (Option α) := do
  match (← get).agent? with
  | none => return none
  | some agent => return some (← f agent)

/-- The handles of gauges; those that do not exist are left out. -/
def handlesOf : List GaugeChoice → Turn (List Handle)
  | [] => return []
  | choice :: rest => do
    let handle ← handleOf choice
    let handles ← handlesOf rest
    return handle.toList ++ handles

/-- Starts the agent, and yields how many metrics are registered. -/
def init (choices : List GaugeChoice) : Turn (Option Nat) :=
  withAgent fun agent => do
    let handles ← handlesOf choices
    let s ← get
    let (agent, scheduler) := agent.init handles s.scheduler
    set { s with agent? := some agent, scheduler }
    view agent.registeredCount

/-- Tells the agent of a metric, and yields how many are registered. -/
def offer (choice : GaugeChoice) : Turn (Option Nat) :=
  withAgent fun agent => do
    match ← handleOf choice with
    | none => pure ()
    | some handle => change (agent.offer handle)
    view agent.registeredCount

/-- Tells the agent that a metric is gone, and yields how many are registered. -/
def withdraw (id : MetricId) : Turn (Option Nat) :=
  withAgent fun agent => do
    change (agent.withdraw id)
    view agent.registeredCount

/-- What the host can see of an agent. -/
structure AgentView where
  isRunning : Bool
  willProvision : Bool
  registered : Nat
  failures : Nat

/-- Looks at the agent. -/
def agentView : Turn (Option AgentView) :=
  withAgent fun agent =>
    view fun w =>
      { isRunning := agent.isRunning
        willProvision := agent.willProvision
        registered := agent.registeredCount w
        failures := agent.surroundings.channel.failures w }

/-- Waits until the agent is closed. -/
def awaitClosing (closing : Closing World) (sys : AgentSystem World Handle) :
    Option (Reply (Option LoopStats)) × AgentSystem World Handle :=
  Scheduler.await (·.scheduler) (fun sys scheduler => { sys with scheduler }) Closing.waiting
    patience closing sys

/-- Closes the agent, and yields the statistics of its loop. -/
def close : Turn (Option (Reply (Option LoopStats))) := do
  let s ← get
  match s.agent? with
  | none => return none
  | some agent =>
    let (result, sys) :=
      match Closing.start { agent, scheduler := s.scheduler } with
      | (.inr reply, sys) => (some reply, sys)
      | (.inl closing, sys) => awaitClosing closing sys
    set { s with agent? := some sys.agent, scheduler := sys.scheduler }
    return result

end MetricFeed.Rehearsal.Session
