/-
MetricFeed/Broker/Delivery.lean

Sending records to the broker.  An accepted record waits until a flush or the producer's end;
then all that wait are delivered in the order of their acceptance, each to the end of its topic's
records or to a failure, and every outcome is handed out with the record's ticket.
-/
import MetricFeed.Broker.Basic

namespace MetricFeed.Broker

variable {τ : Type}

/-- What became of a record. -/
abbrev Outcome := Except PublishFault Placement

/-- Accepts a record, unless the producer is closed. -/
def send (b : Broker τ) (r : Record) (ticket : τ) : Except PublishFault Unit × Broker τ :=
  if b.producerClosed then (.error .closed, b)
  else (.ok (), { b with pending := b.pending.push (r, ticket) })

/-- Delivers one record. -/
def deliver (b : Broker τ) (r : Record) : Outcome × Broker τ :=
  if 0 < b.failNextSends then
    (.error (.delivery r.topic "injected failure"),
      { b with failNextSends := b.failNextSends - 1 })
  else
    match b.topic? r.topic with
    | none => (.error (.delivery r.topic "unknown topic"), b)
    | some t =>
      let (placement, t) := t.append r
      (.ok placement, { b with topics := b.topics.insert r.topic t })

/-- Delivers records one after the other. -/
def deliverEach : List (Record × τ) → Broker τ → List (τ × Outcome) × Broker τ
  | [], b => ([], b)
  | (r, ticket) :: rest, b =>
    let (outcome, b) := b.deliver r
    let (outcomes, b) := deliverEach rest b
    ((ticket, outcome) :: outcomes, b)

/-- Delivers all pending records. -/
def flush (b : Broker τ) : List (τ × Outcome) × Broker τ :=
  deliverEach b.pending.toList { b with pending := #[] }

/-- Delivers all pending records and accepts no more. -/
def closeProducer (b : Broker τ) : List (τ × Outcome) × Broker τ :=
  let (outcomes, b) := b.flush
  (outcomes, { b with producerClosed := true })

/-! ### Delivering leaves nothing pending and answers every ticket in order -/

theorem pending_deliver (b : Broker τ) (r : Record) : (b.deliver r).2.pending = b.pending := by
  unfold deliver
  split
  · rfl
  · split <;> rfl

theorem pending_deliverEach (rs : List (Record × τ)) (b : Broker τ) :
    (deliverEach rs b).2.pending = b.pending := by
  induction rs generalizing b with
  | nil => rfl
  | cons r rest ih =>
    show (deliverEach rest (b.deliver r.1).2).2.pending = b.pending
    rw [ih, pending_deliver]

theorem pending_flush (b : Broker τ) : b.flush.2.pending = #[] := by
  unfold flush
  rw [pending_deliverEach]

theorem tickets_deliverEach (rs : List (Record × τ)) (b : Broker τ) :
    (deliverEach rs b).1.map (·.1) = rs.map (·.2) := by
  induction rs generalizing b with
  | nil => rfl
  | cons r rest ih =>
    show r.2 :: (deliverEach rest (b.deliver r.1).2).1.map (·.1) = r.2 :: rest.map (·.2)
    rw [ih]

end MetricFeed.Broker
