/-
MetricFeed/Reporting/Dialogue.lean

Dialogues with the broker's administration: a step asks one request, and its answer leads to the
next step or to the end.  A dialogue is a plain description, so it can be held with any
administration: at once with a broker in memory, or in time with one that may be slow or silent.

In time, each request has the same time limit; one that is not answered within it counts as
answered with a fault.
-/
import MetricFeed.Broker.Admin
import MetricFeed.Reporting.Call

namespace MetricFeed

/-- A dialogue with steps in `σ` that ends with a value in `α`. -/
structure Dialogue (σ α : Type) where
  /-- What a step asks. -/
  request : σ → AdminRequest
  /-- What an answer leads to, and what is said about it in the log. -/
  next : (s : σ) → Except AdminFault (request s).Answer → List Notice × (σ ⊕ α)

/-- The broker's administration, as the surroundings provide it. -/
abbrev Administration (S : Type) :=
  (r : AdminRequest) → S → Flight S (Except AdminFault r.Answer) × S

namespace Dialogue

variable {σ α S : Type}

/-! ### In time -/

/-- A dialogue in progress: its step, and the call that is waited for, if it has been made. -/
structure Progress (d : Dialogue σ α) (S : Type) where
  step : σ
  call : Option (Call S (Except AdminFault (d.request step).Answer)) := none

namespace Progress

variable {d : Dialogue σ α}

/-- Whether the dialogue can go on. -/
def isDue (p : d.Progress S) (now : Nat) : Bool :=
  match p.call with
  | none => true
  | some c => c.isDue now

/-- The next instant at which the dialogue can go on. -/
def wake? (p : d.Progress S) : Option Nat :=
  p.call.bind (·.wake?)

/-- Goes on after an answer. -/
def answered (note : Notice → S → S) (p : d.Progress S)
    (answer : Except AdminFault (d.request p.step).Answer) (s : S) :
    (d.Progress S ⊕ Reply α) × S :=
  let (notices, onward) := d.next p.step answer
  let s := notices.foldl (fun s n => note n s) s
  match onward with
  | .inl step => (.inl { step }, s)
  | .inr a => (.inr (.value a), s)

/-- Makes the call of the step, or takes its answer, or gives it up. -/
def advance (admin : Administration S) (note : Notice → S → S) (timeout : Duration) (now : Nat)
    (p : d.Progress S) (s : S) : (d.Progress S ⊕ Reply α) × S :=
  match p.call with
  | none =>
    let (flight, s) := admin (d.request p.step) s
    (.inl { step := p.step, call := some (flight.await now (some timeout)) }, s)
  | some c =>
    if c.isAnswered now then
      match c.finish s with
      | (.value answer, s) => p.answered note answer s
      | (.panicked message, s) => (.inr (.panicked message), s)
    else if c.isOverdue now then p.answered note (.error (.timeout timeout)) s
    else (.inl p, s)

end Progress

end Dialogue

end MetricFeed
