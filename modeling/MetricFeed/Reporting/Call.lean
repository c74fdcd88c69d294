/-
MetricFeed/Reporting/Call.lean

Calls to collaborators that take time.  The surroundings of the agent have a state of some type
`S`; a collaborator looks at this state and changes it.  When a call is made, the surroundings say
when it will be answered, if ever, and how; the answer is worked out only when its time has come.
A caller may set a deadline; a call that can be answered is answered even at the deadline itself.

Any collaborator may panic instead of answering.
-/
import MetricFeed.Duration

namespace MetricFeed

/-- What comes of asking a collaborator. -/
inductive Reply (α : Type)
  | value (a : α)
  | panicked (message : String)
  deriving DecidableEq

/-- A call that has been made: how long the answer takes, if it ever comes, and the answer. -/
structure Flight (S α : Type) where
  delay : Option Duration
  finish : S → Reply α × S

namespace Flight

variable {S α : Type}

/-- A call that is answered at once. -/
def immediate (finish : S → Reply α × S) : Flight S α := ⟨some ⟨0⟩, finish⟩

/-- A call that is never answered. -/
def never (finish : S → Reply α × S) : Flight S α := ⟨none, finish⟩

end Flight

/-- A call that somebody waits for: the instants of its answer and of the deadline, if any. -/
structure Call (S α : Type) where
  answeredAt : Option Nat
  deadline : Option Nat
  finish : S → Reply α × S

/-- The instant at which a timer of the given span goes off; a span of zero is over at once. -/
def timerAt (now : Nat) (span : Duration) : Nat :=
  if span.nanos = 0 then now else roundUpToMilli (now + span.nanos)

/-- Starts to wait for a call. -/
def Flight.await {S α : Type} (f : Flight S α) (now : Nat) (timeout : Option Duration) :
    Call S α :=
  { answeredAt := f.delay.map (timerAt now)
    deadline := timeout.map (timerAt now)
    finish := f.finish }

namespace Call

variable {S α : Type}

/-- Whether the answer's time has come. -/
def isAnswered (c : Call S α) (now : Nat) : Bool :=
  c.answeredAt.any (· ≤ now)

/-- Whether the deadline has come. -/
def isOverdue (c : Call S α) (now : Nat) : Bool :=
  c.deadline.any (· ≤ now)

/-- Whether there is anything to be done about the call. -/
def isDue (c : Call S α) (now : Nat) : Bool :=
  c.isAnswered now || c.isOverdue now

/-- The earlier of two instants, either of which may not exist. -/
def earlier : Option Nat → Option Nat → Option Nat
  | none, b => b
  | a, none => a
  | some a, some b => some (min a b)

/-- The next instant at which there is something to be done. -/
def wake? (c : Call S α) : Option Nat :=
  earlier c.answeredAt c.deadline

theorem earlier_eq_none_iff {a b : Option Nat} : earlier a b = none ↔ a = none ∧ b = none := by
  cases a <;> cases b <;> simp [earlier]

end Call

end MetricFeed
