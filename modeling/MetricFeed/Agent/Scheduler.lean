/-
MetricFeed/Agent/Scheduler.lean

A scheduler with virtual time: loops that have been started as tasks, the state of their
surroundings, and the present instant.

* A task whose time has come is called up: it queues for its turn.  A task that is started queues
  at once.
* In its turn a task goes on as far as it can; then it waits, or has ended.
* While somebody waits, turns are taken in rounds.  A round ends when no task queues any more, those
  that are called up meanwhile included, or after `turnsPerRound` turns; only between two rounds is
  it looked whether the wait is over.
* When the wait is not over and no task queues, time jumps to the next timer, and the wait is looked
  at before the tasks that this timer calls up.

What is waited for is described by a `Waiting`.
-/
import MetricFeed.Reporting.Loop

namespace MetricFeed

/-- A loop that has been started. -/
structure Task (S H : Type) where
  id : Nat
  setup : LoopSetup
  surroundings : Surroundings S H
  loop : LoopState S
  /-- The number of the turn since which the task has waited for the request to stop. -/
  since : Nat := 0

/-- Tasks, the state of their surroundings, and the present instant. -/
structure Scheduler (S H : Type) where
  now : Nat := 0
  /-- The tasks that queue for their turn, in the order of their turns. -/
  queue : List (Task S H) := []
  /-- The tasks that wait, those that have waited longest first, and those that have ended. -/
  idle : List (Task S H) := []
  nextId : Nat := 0
  /-- How many turns have been taken. -/
  turns : Nat := 0
  state : S

/-- What became of a task. -/
inductive TaskResult
  | exited (stats : LoopStats)
  | crashed (panic : String)

namespace Task

variable {S H : Type}

/-- Whether the task can go on. -/
def isDue (t : Task S H) (now : Nat) (s : S) : Bool :=
  t.loop.isDue t.surroundings now s

/-- The task's result, once it has ended. -/
def result? (t : Task S H) : Option TaskResult :=
  match t.loop.phase with
  | .exited => some (.exited t.loop.stats)
  | .crashed panic => some (.crashed panic)
  | _ => none

/-- The task after its next step. -/
def step (t : Task S H) (now : Nat) (s : S) : Task S H × S :=
  let (loop, s) := t.loop.step t.setup t.surroundings now s
  ({ t with loop }, s)

/-- The task after a turn.  Provisioning is one long wait for the request to stop, however many
turns it takes; any other phase begins to wait anew. -/
def rest (t : Task S H) (turn : Nat) : Task S H :=
  if t.loop.isProvisioning && t.since ≠ 0 then t else { t with since := turn }

/-- Puts a task among others in the order in which they began to wait. -/
def insert (t : Task S H) : List (Task S H) → List (Task S H)
  | [] => [t]
  | u :: rest => if t.since < u.since then t :: u :: rest else u :: insert t rest

end Task

namespace Scheduler

variable {S H : Type}

/-- All tasks. -/
def tasks (sch : Scheduler S H) : List (Task S H) :=
  sch.queue ++ sch.idle

def task? (sch : Scheduler S H) (id : Nat) : Option (Task S H) :=
  sch.tasks.find? (·.id = id)

/-- The result of a task, once it has ended. -/
def result? (sch : Scheduler S H) (id : Nat) : Option TaskResult :=
  (sch.task? id).bind (·.result?)

/-- Starts a loop; it does nothing before somebody waits. -/
def spawn (sch : Scheduler S H) (setup : LoopSetup) (sur : Surroundings S H) :
    Nat × Scheduler S H :=
  let task : Task S H :=
    { id := sch.nextId, setup, surroundings := sur, loop := setup.initial S sch.now }
  (sch.nextId, { sch with queue := sch.queue ++ [task], nextId := sch.nextId + 1 })

/-- Ends a task where it stands. -/
def abort (sch : Scheduler S H) (id : Nat) : Scheduler S H :=
  { sch with
    queue := sch.queue.filter (·.id ≠ id)
    idle := sch.idle.filter (·.id ≠ id) }

/-! ### Calling tasks up -/

/-- Calls up the tasks that wait and can go on. -/
def callUp (sch : Scheduler S H) : Scheduler S H :=
  let (due, idle) := sch.idle.partition (·.isDue sch.now sch.state)
  { sch with queue := sch.queue ++ due, idle }

/-- Gives the surroundings another state. -/
def setState (sch : Scheduler S H) (s : S) : Scheduler S H :=
  { sch with state := s }.callUp

/-- Changes the state of the surroundings. -/
def modify (sch : Scheduler S H) (f : S → S) : Scheduler S H :=
  sch.setState (f sch.state)

/-- Lets time jump to a timer. -/
def jump (sch : Scheduler S H) (wake : Nat) : Scheduler S H :=
  { sch with now := jumpTo sch.now wake }.callUp

/-- The next timer of a task. -/
def wake? (sch : Scheduler S H) : Option Nat :=
  (sch.idle.map (·.loop.wake?)).foldl Call.earlier none

/-! ### Taking turns -/

/-- Lets the first task of the queue, which is followed by `rest`, take a step of its turn, or end
its turn when it can go no further. -/
def advance (sch : Scheduler S H) (t : Task S H) (rest : List (Task S H)) : Scheduler S H :=
  if t.isDue sch.now sch.state then
    let (t, s) := t.step sch.now sch.state
    { sch with queue := t :: rest }.setState s
  else
    let turn := sch.turns + 1
    { sch with queue := rest, idle := (t.rest turn).insert sch.idle, turns := turn }

/-- How many turns a round may have. -/
def turnsPerRound : Nat := 61

/-- Lets the tasks take their turns until none queues, so many turns have been taken as `last` says,
or the fuel is used up. -/
def takeTurns (last : Nat) : (fuel : Nat) → Scheduler S H → Scheduler S H
  | 0, sch => sch
  | fuel + 1, sch =>
    match sch.queue with
    | [] => sch
    | t :: rest => if last ≤ sch.turns then sch else takeTurns last fuel (sch.advance t rest)

/-- Lets the tasks take the turns of a round. -/
def round (sch : Scheduler S H) (fuel : Nat) : Scheduler S H :=
  takeTurns (sch.turns + turnsPerRound) fuel sch

/-! ### Waiting -/

/-- Something that is waited for, with states in `σ`, that may look at and change `ρ`. -/
structure Waiting (ρ σ α : Type) where
  isDue : ρ → σ → Bool
  step : ρ → σ → (σ ⊕ α) × ρ
  wake? : σ → Option Nat

/-- Waits: `sch` and `setSch` give the scheduler within `ρ`.  There is no value when nothing would
ever happen, or when the fuel is used up. -/
def await {ρ σ α : Type} (sch : ρ → Scheduler S H) (setSch : ρ → Scheduler S H → ρ)
    (w : Waiting ρ σ α) : (fuel : Nat) → σ → ρ → Option α × ρ
  | 0, _, r => (none, r)
  | fuel + 1, st, r =>
    if w.isDue r st then
      match w.step r st with
      | (.inl st, r) => await sch setSch w fuel st r
      | (.inr a, r) => (some a, r)
    else if (sch r).queue.isEmpty then
      match Call.earlier (w.wake? st) (sch r).wake? with
      | none => (none, r)
      | some t => await sch setSch w fuel st (setSch r ((sch r).jump t))
    else await sch setSch w fuel st (setSch r ((sch r).round fuel))

end Scheduler

end MetricFeed
