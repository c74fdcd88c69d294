/-
MetricFeed/Agent/Closing.lean

Closing the agent.  The loop is told to stop and waited for, and ended by force when it does not
stop in time; then an administrative client that no loop has used is released, and the channel is
closed.  Each part has its time limit, so closing comes to an end whatever the clients do.

Several closings of one agent may be under way at once: they share the agent, and only the first
finds a loop to wait for.
-/
import MetricFeed.Agent.Lifecycle

namespace MetricFeed

/-- How long the loop may take to stop. -/
def joinTimeout : Duration := .ofSeconds 10

/-- Where the closing of an agent is; it knows the loop's statistics once it has them. -/
inductive Closing (S : Type)
  | joining (task deadline : Nat)
  | releasing (stats : Option LoopStats) (call : Call S (Except AdminFault Unit))
  | closingChannel (stats : Option LoopStats) (call : Call S (Except PublishFault Unit))

/-- An agent within its scheduler. -/
structure AgentSystem (S H : Type) where
  agent : Agent S H
  scheduler : Scheduler S H

namespace Closing

variable {S H : Type}

/-- What a step of the closing leads to: a further wait, or the end with the loop's statistics if
it stopped by itself. -/
abbrev Onward (S : Type) := Closing S ⊕ Reply (Option LoopStats)

/-- Closes the channel, unless it is closed already. -/
def toChannel (stats : Option LoopStats) (sys : AgentSystem S H) :
    Onward S × AgentSystem S H :=
  let channel := sys.agent.surroundings.channel
  let sch := sys.scheduler
  match channel.beginClose Channel.closeTimeout sch.now sch.state with
  | (none, s) => (.inr (.value stats), { sys with scheduler := sch.setState s })
  | (some call, s) =>
    (.inl (.closingChannel stats call), { sys with scheduler := sch.setState s })

/-- Releases an administrative client that no loop has used, then goes on to the channel. -/
def toRelease (stats : Option LoopStats) (sys : AgentSystem S H) :
    Onward S × AgentSystem S H :=
  match sys.agent.spareTopic? with
  | none => toChannel stats sys
  | some _ =>
    let sch := sys.scheduler
    let (call, s) := Provisioning.beginRelease sys.agent.surroundings.admin
      Provisioning.closeTimeout sch.now sch.state
    (.inl (.releasing stats call),
      { agent := { sys.agent with spareTopic? := none }, scheduler := sch.setState s })

/-- Begins to close the agent. -/
def start (sys : AgentSystem S H) : Onward S × AgentSystem S H :=
  let sch := sys.scheduler.modify fun s =>
    sys.agent.cancel (sys.agent.surroundings.note .closingAgent s)
  match sys.agent.runner? with
  | some task =>
    (.inl (.joining task (timerAt sch.now joinTimeout)),
      { agent := { sys.agent with runner? := none }, scheduler := sch })
  | none => toRelease none { sys with scheduler := sch }

/-- Whether the closing can go on. -/
def isDue (sys : AgentSystem S H) : Closing S → Bool
  | .joining task deadline =>
    (sys.scheduler.result? task).isSome || deadline ≤ sys.scheduler.now
  | .releasing _ call => call.isDue sys.scheduler.now
  | .closingChannel _ call => call.isDue sys.scheduler.now

/-- The next instant at which the closing can go on by itself. -/
def wake? : Closing S → Option Nat
  | .joining _ deadline => some deadline
  | .releasing _ call => call.wake?
  | .closingChannel _ call => call.wake?

/-- Says something in the log. -/
def say (n : Notice) (sys : AgentSystem S H) : AgentSystem S H :=
  { sys with scheduler := sys.scheduler.modify (sys.agent.surroundings.note n) }

/-- Goes on to the next wait or to the end. -/
def step (sys : AgentSystem S H) : Closing S → Onward S × AgentSystem S H
  | .joining task _ =>
    match sys.scheduler.result? task with
    | some (.exited stats) => toRelease (some stats) sys
    | some (.crashed panic) => toRelease none (say (.loopFailed panic) sys)
    | none =>
      let sys := say (.loopAborted joinTimeout) sys
      toRelease none { sys with scheduler := sys.scheduler.abort task }
  | .releasing stats call =>
    let sch := sys.scheduler
    match Provisioning.finishRelease sys.agent.surroundings.note Provisioning.closeTimeout sch.now
        call sch.state with
    | (.value (), s) => toChannel stats { sys with scheduler := sch.setState s }
    | (.panicked message, s) =>
      (.inr (.panicked message), { sys with scheduler := sch.setState s })
  | .closingChannel stats call =>
    let sch := sys.scheduler
    match sys.agent.surroundings.channel.finishClose Channel.closeTimeout sch.now call
        sch.state with
    | (.value (), s) => (.inr (.value stats), { sys with scheduler := sch.setState s })
    | (.panicked message, s) =>
      (.inr (.panicked message), { sys with scheduler := sch.setState s })

/-- Closing as something to wait for. -/
def waiting : Scheduler.Waiting (AgentSystem S H) (Closing S) (Reply (Option LoopStats)) where
  isDue sys c := c.isDue sys
  step sys c := c.step sys
  wake? c := c.wake?

end Closing

end MetricFeed
