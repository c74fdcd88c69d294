/-
MetricFeed/Agent/Waiting.lean

What may be waited for within a scheduler: an instant, the end of a task, the answer of a call, or
the end of a dialogue.
-/
import MetricFeed.Agent.Scheduler

namespace MetricFeed.Scheduler.Waiting

variable {S H α β σ : Type}

/-- Waits until an instant. -/
def forInstant : Waiting (Scheduler S H) Nat Unit where
  isDue sch t := t ≤ sch.now
  step sch _ := (.inr (), sch)
  wake? t := some t

/-- Waits for the end of a task. -/
def forTask : Waiting (Scheduler S H) Nat TaskResult where
  isDue sch task := (sch.result? task).isSome
  step sch task :=
    match sch.result? task with
    | some result => (.inr result, sch)
    | none => (.inl task, sch)
  wake? _ := none

/-- Waits for the answer of a call or its deadline; `finish` takes the answer or gives it up. -/
def forCall (finish : Nat → Call S α → S → Reply β × S) :
    Waiting (Scheduler S H) (Call S α) (Reply β) where
  isDue sch call := call.isDue sch.now
  step sch call :=
    let (reply, s) := finish sch.now call sch.state
    (.inr reply, sch.setState s)
  wake? call := call.wake?

/-- Waits for the end of a dialogue. -/
def forDialogue (d : Dialogue σ α) (admin : Administration S) (note : Notice → S → S)
    (timeout : Duration) : Waiting (Scheduler S H) (d.Progress S) (Reply α) where
  isDue sch p := p.isDue sch.now
  step sch p :=
    let (onward, s) := p.advance admin note timeout sch.now sch.state
    (onward, sch.setState s)
  wake? p := p.wake?

end MetricFeed.Scheduler.Waiting
