/-
MetricFeed/Rehearsal/Session.lean

A session rehearses the agent or one of its parts: a scheduler over a world, and at most one each of
a channel, an intake, a provisioner, a loop and an agent.  Turns are taken one after the other;
loops that have been started run only while a turn waits.

A turn that needs a part that the session does not have yields `none`, and so does a turn that
would wait for ever.
-/
import MetricFeed.Agent.Waiting
import MetricFeed.Rehearsal.World

namespace MetricFeed.Rehearsal

/-- The wanted shape of a topic, and how long each request for it may take. -/
structure Provisioner where
  spec : TopicSpec
  timeout : Duration := Provisioning.requestTimeout

/-- A scheduler over a world, and the parts of the agent that are rehearsed in it. -/
structure Session where
  scheduler : Scheduler World Handle := { state := {} }
  /-- The place of the channel. -/
  channel? : Option Nat := none
  /-- The place of the intake. -/
  intake? : Option Nat := none
  provisioner? : Option Provisioner := none
  /-- The task of the loop. -/
  loop? : Option Nat := none
  agent? : Option (Agent World Handle) := none
  /-- The next token that no loop has been given. -/
  nextToken : Nat := World.sessionToken + 1

/-- A turn in a session. -/
abbrev Turn := StateM Session

namespace Session

variable {α β σ : Type}

/-! ### Looking at the world and changing it -/

/-- Looks at the world. -/
def view (f : World → α) : Turn α :=
  return f (← get).scheduler.state

/-- Changes the world. -/
def change (f : World → World) : Turn Unit :=
  modify fun s => { s with scheduler := s.scheduler.modify f }

/-- Does something to the world that has an answer. -/
def ask (f : World → α × World) : Turn α := do
  let (a, w) := f (← get).scheduler.state
  change fun _ => w
  return a

/-! ### Waiting -/

/-- How many steps a turn may take; no rehearsal is as long. -/
def patience : Nat := 1000000000000

/-- Waits within the scheduler. -/
def await (w : Scheduler.Waiting (Scheduler World Handle) σ α) (st : σ) : Turn (Option α) := do
  let (result, sch) := Scheduler.await id (fun _ sch => sch) w patience st (← get).scheduler
  modify fun s => { s with scheduler := sch }
  return result

/-- Waits for a call. -/
def awaitCall (finish : Nat → Call World α → World → Reply β × World) (call : Call World α) :
    Turn (Option (Reply β)) :=
  await (.forCall finish) call

/-- Holds a dialogue from a step on. -/
def hold (d : Dialogue σ α) (timeout : Duration) (step : σ) : Turn (Option (Reply α)) :=
  await (.forDialogue d World.administration World.note timeout) { step }

/-! ### Time and the log -/

/-- Lets time pass. -/
def sleep (ms : Nat) : Turn (Option Unit) := do
  await .forInstant (timerAt (← get).scheduler.now (.ofMillis ms))

/-- The whole milliseconds since the session began. -/
def elapsedMs : Turn Nat :=
  return (← get).scheduler.now / nanosPerMilli

/-- A line of the log: the word for its level, and its text. -/
abbrev Line := String × String

/-- The order of lines by level and text. -/
def lineOrder (a b : Line) : Ordering :=
  (compare a.1 b.1).then (compare a.2 b.2)

/-- The lines of a log that matter at least as much as the given level. -/
def linesOf (least : Level) (log : List Notice) : List Line :=
  (log.filter fun n => least.rank ≤ n.level.rank).map fun n => (n.level.word, n.message)

/-- Takes the log, which starts anew. -/
def takeLog (least : Level) (sorted : Bool) : Turn (List Line) := do
  let lines := linesOf least (← ask World.takeLog)
  return if sorted then lines.mergeSort fun a b => lineOrder a b != .gt else lines

/-! ### Records -/

/-- The order of records by their time and payload. -/
def recordOrder (a b : Record) : Ordering :=
  (compare a.timestampMs.toInt b.timestampMs.toInt).then (compare a.payload b.payload)

/-- The records of a topic, in the order of their delivery or by time and payload. -/
def records (topic : String) (sorted : Bool) : Turn (List Record) := do
  let records := (← view (·.broker.records topic)).toList
  return if sorted then records.mergeSort fun a b => recordOrder a b != .gt else records

/-! ### The broker without clients -/

/-- Makes an administrative request. -/
def request (r : AdminRequest) : Turn (Except AdminFault r.Answer) :=
  ask (World.reachAdmin r)

/-- Connects a client. -/
def connect (kind : ClientKind) (settings : ProducerSettings) :
    Turn (Except PublishFault Unit ⊕ Except AdminFault Unit) :=
  match kind with
  | .producer => return .inl (← ask (World.connectProducer settings))
  | .admin => return .inr (← ask (World.connectAdmin settings))

/-- Sends a record. -/
def send (r : Record) : Turn (Except PublishFault Unit) :=
  ask (World.sendDirect r)

/-- Takes the outcomes of records that were sent without a channel. -/
def takeCompleted : Turn (List (String × Broker.Outcome)) :=
  ask World.takeCompleted

/-- Delivers what is pending, and yields what became of it. -/
def flush : Turn (Except PublishFault Unit × List (String × Broker.Outcome)) := do
  let outcome ← ask World.reachFlush
  return (outcome, ← takeCompleted)

/-- Closes the producer, and yields what became of pending records. -/
def closeProducer : Turn (Except PublishFault Unit × List (String × Broker.Outcome)) := do
  let outcome ← ask World.reachClose
  return (outcome, ← takeCompleted)

end Session

end MetricFeed.Rehearsal
