/-
MetricFeed/Reporting/Loop.lean

The reporting loop, as a machine in virtual time.  First the topic is provisioned, if that is
wanted, and the administrative client released.  Then iterations follow until the loop is told to
stop: a collection pass if one is due, a flush, the account of failed deliveries, and sleep until
one interval after the iteration's start.

Between its steps the loop waits: for an answer, a deadline, an instant, or the request to stop.
`isDue` says whether it can go on at an instant, `wake?` when it will be able to at the latest
without a request to stop, and `step` takes it to its next wait.  A pass is a single step: nothing
else happens during it.
-/
import MetricFeed.Reporting.Clock
import MetricFeed.Reporting.Pass
import MetricFeed.Reporting.Provisioning

namespace MetricFeed

/-! ### State -/

/-- What a loop is set up with. -/
structure LoopSetup where
  nodeId : Int32
  interval : Duration
  clock : Clock
  /-- The wanted shape of the topic, if the loop is to provision it. -/
  topic? : Option TopicSpec := none
  /-- The time limit of the requests that provision it. -/
  requestTimeout : Duration := Provisioning.requestTimeout

/-- What a loop has done so far. -/
structure LoopStats where
  ticks : Nat := 0
  failedTicks : Nat := 0
  published : Nat := 0
  deliveryFailures : Nat := 0
  deriving DecidableEq, Inhabited, Repr

/-- Where a loop is. -/
inductive LoopPhase (S : Type)
  | starting
  | provisioning (spec : TopicSpec) (progress : (Provisioning.provision spec).Progress S)
  | releasing (call : Call S (Except AdminFault Unit))
  /-- The iteration began at the time `now`; its flush is waited for. -/
  | flushing (now : Int64) (call : Call S (Except PublishFault Unit))
  | sleeping (wake : Nat)
  | exited
  | crashed (panic : String)

/-- A loop between two steps. -/
structure LoopState (S : Type) where
  phase : LoopPhase S := .starting
  rates : Rates := {}
  /-- The time of the last pass, at first the time when the loop got its clock. -/
  lastPass : Int64
  stats : LoopStats := {}

/-- The interval in milliseconds, kept within 64 bits. -/
def LoopSetup.intervalMs (setup : LoopSetup) : Nat :=
  min setup.interval.wholeMillis greatestMillis

/-- A loop that gets its clock at the instant `now` and has not begun.  A clock that has run out by
then has ended it with a panic. -/
def LoopSetup.initial (setup : LoopSetup) (S : Type) (now : Nat) : LoopState S :=
  match setup.clock.nowMs? now with
  | some nowMs => { lastPass := nowMs }
  | none => { phase := .crashed Clock.runOut, lastPass := setup.clock.originMs }

namespace LoopState

variable {S H : Type}

/-! ### Iterations -/

/-- Whether a pass is due at the time `nowMs`. -/
def passDue (setup : LoopSetup) (st : LoopState S) (nowMs : Int64) : Bool :=
  addMs st.lastPass setup.intervalMs ≤ nowMs

/-- What is said about the end of a pass. -/
def passNotices (nowMs : Int64) : Except Cut Unit → List Notice
  | .ok () => []
  | .error (.fault fault) => [.passFailed nowMs fault]
  | .error .panic => [.passPanicked nowMs]

/-- A collection pass.  A fault or a panic ends the pass and not the loop. -/
def runPass (setup : LoopSetup) (sur : Surroundings S H) (nowMs : Int64) (st : LoopState S)
    (s : S) : LoopState S × S :=
  let s := (sur.channel.takeFailures s).2
  let (outcome, p) := Pass.run sur setup.nodeId nowMs { state := s, rates := st.rates }
  let stats :=
    { st.stats with
      ticks := st.stats.ticks + 1
      published := st.stats.published + p.published
      failedTicks := st.stats.failedTicks + (match outcome with | .ok () => 0 | .error _ => 1) }
  ({ st with rates := p.rates, lastPass := nowMs, stats },
    (passNotices nowMs outcome).foldl (fun s n => sur.note n s) p.state)

/-- Begins an iteration, or ends the loop if it has been told to stop.  A clock that has run out
ends it with a panic. -/
def iterate (setup : LoopSetup) (sur : Surroundings S H) (now : Nat) (st : LoopState S) (s : S) :
    LoopState S × S :=
  if sur.cancelled s then ({ st with phase := .exited }, sur.note .loopExited s)
  else
    match setup.clock.nowMs? now with
    | none => ({ st with phase := .crashed Clock.runOut }, s)
    | some nowMs =>
      let s := sur.note (.reportingAt nowMs) s
      let (st, s) := if st.passDue setup nowMs then st.runPass setup sur nowMs s else (st, s)
      let (flight, s) := sur.channel.producer.flush s
      ({ st with phase := .flushing nowMs (flight.await now none) }, s)

/-- Says how many deliveries have failed, if any have, and counts them. -/
def accountFailures (sur : Surroundings S H) (nowMs : Int64) (st : LoopState S) (s : S) :
    LoopState S × S :=
  let (failures, s) := sur.channel.takeFailures s
  if failures = 0 then (st, s)
  else
    ({ st with
        stats := { st.stats with deliveryFailures := st.stats.deliveryFailures + failures } },
      sur.note (.deliveriesFailed failures nowMs) s)

/-- Ends an iteration that began at the time `nowMs`, and goes to sleep.  A clock that has run out
during the iteration ends the loop with a panic.

The clock is read a second time as an argument of the debug notice that says how long the iteration
took.  The argument is evaluated only with the debug level enabled, and a clock that has run out
makes it a panic only with additions checked for overflow; the loop is modelled with both. -/
def finishIteration (setup : LoopSetup) (sur : Surroundings S H) (now : Nat) (nowMs : Int64)
    (st : LoopState S) (s : S) : LoopState S × S :=
  let (st, s) := st.accountFailures sur nowMs s
  match setup.clock.nowMs? now with
  | none => ({ st with phase := .crashed Clock.runOut }, s)
  | some endMs =>
    let next := addMs nowMs setup.intervalMs
    let s := sur.note (.reportingFinished nowMs (endMs - nowMs) next) s
    ({ st with phase := .sleeping (roundUpToMilli (setup.clock.instantAt next)) }, s)

/-- What is said about the answer to a flush. -/
def flushNotices (cancelled : Bool) : Except PublishFault Unit → List Notice
  | .ok () => []
  | .error .interrupted =>
    if cancelled then [.flushInterrupted] else [.flushFailed .interrupted]
  | .error fault => [.flushFailed fault]

/-! ### Provisioning -/

/-- Ends the provisioning and begins to release the administrative client. -/
def beginRelease (sur : Surroundings S H) (now : Nat) (st : LoopState S) (s : S) :
    LoopState S × S :=
  let (call, s) := Provisioning.beginRelease sur.admin Provisioning.closeTimeout now s
  ({ st with phase := .releasing call }, s)

/-- Gives the provisioning up because the loop has been told to stop. -/
def interruptProvisioning (sur : Surroundings S H) (now : Nat) (st : LoopState S) (s : S) :
    LoopState S × S :=
  st.beginRelease sur now (sur.note .provisioningInterrupted s)

/-- Goes on with the provisioning. -/
def advanceProvisioning (setup : LoopSetup) (sur : Surroundings S H) (now : Nat)
    (spec : TopicSpec) (progress : (Provisioning.provision spec).Progress S) (st : LoopState S)
    (s : S) : LoopState S × S :=
  match progress.advance sur.admin sur.note setup.requestTimeout now s with
  | (.inl progress, s) => ({ st with phase := .provisioning spec progress }, s)
  | (.inr (.value outcome), s) =>
    st.beginRelease sur now (sur.note (.provisioningFinished outcome) s)
  | (.inr (.panicked message), s) => ({ st with phase := .crashed message }, s)

/-! ### Steps -/

/-- Whether the loop can go on at the instant `now`. -/
def isDue (sur : Surroundings S H) (now : Nat) (st : LoopState S) (s : S) : Bool :=
  match st.phase with
  | .starting => true
  | .provisioning _ progress => sur.cancelled s || progress.isDue now
  | .releasing call => call.isDue now
  | .flushing _ call => sur.cancelled s || call.isDue now
  | .sleeping wake => sur.cancelled s || wake ≤ now
  | .exited | .crashed _ => false

/-- Whether the topic is being provisioned. -/
def isProvisioning (st : LoopState S) : Bool :=
  match st.phase with
  | .provisioning _ _ => true
  | _ => false

/-- The next instant at which the loop can go on by itself. -/
def wake? (st : LoopState S) : Option Nat :=
  match st.phase with
  | .provisioning _ progress => progress.wake?
  | .releasing call => call.wake?
  | .flushing _ call => call.wake?
  | .sleeping wake => some wake
  | .starting | .exited | .crashed _ => none

/-- Goes on to the next wait. -/
def step (setup : LoopSetup) (sur : Surroundings S H) (now : Nat) (st : LoopState S) (s : S) :
    LoopState S × S :=
  match st.phase with
  | .starting =>
    let s := sur.note (.loopStarting setup.interval) s
    match setup.topic? with
    | none => st.iterate setup sur now s
    | some spec => ({ st with phase := .provisioning spec { step := .creating } }, s)
  | .provisioning spec progress =>
    if sur.cancelled s then
      let (callFirst, s) := sur.favoursCall s
      if callFirst && progress.isDue now then st.advanceProvisioning setup sur now spec progress s
      else st.interruptProvisioning sur now s
    else st.advanceProvisioning setup sur now spec progress s
  | .releasing call =>
    match Provisioning.finishRelease sur.note Provisioning.closeTimeout now call s with
    | (.value (), s) => st.iterate setup sur now s
    | (.panicked message, s) => ({ st with phase := .crashed message }, s)
  | .flushing nowMs call =>
    if call.isAnswered now then
      match call.finish s with
      | (.value answer, s) =>
        let s := (flushNotices (sur.cancelled s) answer).foldl (fun s n => sur.note n s) s
        st.finishIteration setup sur now nowMs s
      | (.panicked message, s) => ({ st with phase := .crashed message }, s)
    else st.finishIteration setup sur now nowMs (sur.note .flushInterrupted s)
  | .sleeping _ => st.iterate setup sur now s
  | .exited | .crashed _ => (st, s)

end LoopState

end MetricFeed
