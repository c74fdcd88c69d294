/-
MetricFeed/Proofs/Rehearsal/Traffic.lean

The traffic of a broker: records are sent through channels or directly, pending records are
delivered by flushes and by the end of the producer, failures are arranged, topics are created and
reshaped, and what the callbacks leave behind is taken, in any order and any number of times.

A callback leaves its trace in the world: one of a direct send enters its outcome among those
completed, and one of a channel's sample counts a failure and warns of it in the log.  A ledger is
kept beside the world of what was accepted and of the traces that have been taken.  `Balances`
relates both to the deliveries so far: the accepted records are those delivered followed by those
pending, the traces are those of one callback for each delivery, in order, and each topic's log
holds the delivered records that were appended to it.  Every operation keeps this, which gives the
main result (`Traffic.accounts`): nothing is lost, nothing happens twice, and order is kept.
-/
import MetricFeed.Proofs.Broker.Ledger
import MetricFeed.Proofs.Reporting.Step
import MetricFeed.Rehearsal.Parts

namespace MetricFeed.Rehearsal

/-! ### Sending -/

namespace World

/-- Hands a sample to the channel at a place. -/
def publishTo (place : Nat) (sample : Sample) (w : World) :
    Reply (Except PublishFault Unit) × World :=
  (channel place (w.channelState place).topic).publish sample w

/-- What is pending when the channel's record of a sample has been accepted. -/
def entryOf (place : Nat) (sample : Sample) (w : World) : Record × Ticket :=
  ((channel place (w.channelState place).topic).record sample sample.encode,
    .sample place sample)

end World

/-- Handing a record of a channel to the producer either puts it at the end of what is pending, or
leaves no trace. -/
theorem producer_send_cases (place : Nat) (r : Record) (sample : Sample) (w : World) :
    ((World.producer place).send r sample w).1 = .value (.ok ()) ∧
        w.broker.producerClosed = false ∧
        ((World.producer place).send r sample w).2 =
          { w with
            broker :=
              { w.broker with pending := w.broker.pending.push (r, .sample place sample) } } ∨
      ((World.producer place).send r sample w).1 ≠ .value (.ok ()) ∧
        ((World.producer place).send r sample w).2 = w := by
  unfold World.producer
  dsimp only
  rcases (w.producerScript .send).fault with _ | fault
  · -- the record reaches the broker, which may be closed
    unfold Broker.send
    by_cases hc : w.broker.producerClosed = true
    · rw [if_pos hc]
      exact .inr ⟨nofun, rfl⟩
    · rw [if_neg hc]
      exact .inl ⟨rfl, Bool.eq_false_iff.mpr hc, rfl⟩
  · -- the client fails the call without the broker
    exact .inr ⟨nofun, rfl⟩

/-- Sending a sample either puts its entry at the end of what is pending, or leaves no trace but,
at most, the word that it was being sent. -/
theorem publishTo_cases (place : Nat) (sample : Sample) (w : World) :
    (w.publishTo place sample).1 = .value (.ok ()) ∧ w.broker.producerClosed = false ∧
        (w.publishTo place sample).2 =
          { w.note (.sending sample) with
            broker :=
              { w.broker with pending := w.broker.pending.push (w.entryOf place sample) } } ∨
      (w.publishTo place sample).1 ≠ .value (.ok ()) ∧
        ((w.publishTo place sample).2 = w ∨
          (w.publishTo place sample).2 = w.note (.sending sample)) := by
  have hs : (World.channel place (w.channelState place).topic).serialize sample w =
      (.value (w.serialize sample), w) := rfl
  unfold World.publishTo Channel.publish
  rw [hs]
  unfold World.serialize
  by_cases hu : w.unserializable.1.contains sample.metricType = true
  · -- not serialized: nothing is said and nothing is sent
    rw [if_pos hu]
    exact .inr ⟨nofun, .inl rfl⟩
  · rw [if_neg hu]
    rcases producer_send_cases place (w.entryOf place sample).1 sample (w.note (.sending sample))
      with ⟨hok, hopen, hw⟩ | ⟨hno, hw⟩
    · exact .inl ⟨hok, hopen, hw⟩
    · exact .inr ⟨hno, .inr hw⟩

/-- Sending a record directly either puts it at the end of what is pending, or leaves no trace. -/
theorem sendDirect_cases (r : Record) (w : World) :
    (w.sendDirect r).1 = .ok () ∧ w.broker.producerClosed = false ∧
        (w.sendDirect r).2 =
          { w with
            broker := { w.broker with pending := w.broker.pending.push (r, .direct r.key) } } ∨
      (w.sendDirect r).1 ≠ .ok () ∧ (w.sendDirect r).2 = w := by
  unfold World.sendDirect Broker.send
  by_cases hc : w.broker.producerClosed = true
  · rw [if_pos hc]
    exact .inr ⟨nofun, rfl⟩
  · rw [if_neg hc]
    exact .inl ⟨rfl, Bool.eq_false_iff.mpr hc, rfl⟩

/-! ### Running callbacks -/

/-- Whether the channel that a ticket speaks of, if any, has been opened. -/
def Ticket.Known (w : World) : Ticket → Prop
  | .direct _ => True
  | .sample place _ => place < w.channels.size

/-- How many callbacks have reported a failure to the channel at a place. -/
def failedOf (place : Nat) (callbacks : List (Ticket × Broker.Outcome)) : Nat :=
  callbacks.countP fun c => match c with
    | (.sample p _, .error _) => p == place
    | (.sample _ _, .ok _) | (.direct _, _) => false

/-- What the callback of a direct send enters among the outcomes completed. -/
def direct? (c : Ticket × Broker.Outcome) : Option (String × Broker.Outcome) :=
  match c.1 with
  | .direct key => some (key, c.2)
  | .sample _ _ => none

/-- The failure that the callback of a channel's sample warns of. -/
def warning? (c : Ticket × Broker.Outcome) : Option (Sample × PublishFault) :=
  match c with
  | (.sample _ sample, .error fault) => some (sample, fault)
  | (.sample _ _, .ok _) | (.direct _, _) => none

/-- The failed delivery that a notice warns of. -/
def failedDelivery? (n : Notice) : Option (Sample × PublishFault) :=
  match n with
  | .deliveryFailed sample fault => some (sample, fault)
  | _ => none

/-- The failed deliveries that the log warns of. -/
def World.warnings (w : World) : List (Sample × PublishFault) :=
  w.log.toList.filterMap failedDelivery?

namespace World

theorem channelState_modify (place : Nat) (f : ChannelState → ChannelState) (w : World)
    (other : Nat) :
    (w.modifyChannel place f).channelState other =
      if place = other ∧ place < w.channels.size then f (w.channelState other)
      else w.channelState other := by
  unfold channelState modifyChannel
  rw [Array.getD_eq_getD_getElem?, Array.getD_eq_getD_getElem?, Array.getElem?_modify]
  by_cases h : place = other
  · rw [if_pos h]
    by_cases hlt : place < w.channels.size
    · rw [if_pos ⟨h, hlt⟩]
      have hlt' : other < w.channels.size := h ▸ hlt
      rw [Array.getElem?_eq_getElem hlt']
      rfl
    · rw [if_neg fun hand => hlt hand.2]
      have hge : w.channels.size ≤ other := h ▸ Nat.le_of_not_lt hlt
      rw [Array.getElem?_eq_none hge]
      rfl
  · rw [if_neg h, if_neg fun hand => h hand.1]

@[simp] theorem size_modify (place : Nat) (f : ChannelState → ChannelState) (w : World) :
    (w.modifyChannel place f).channels.size = w.channels.size :=
  Array.size_modify

@[simp] theorem settle_broker (ticket : Ticket) (outcome : Broker.Outcome) (w : World) :
    (w.settle ticket outcome).broker = w.broker := by
  cases ticket <;> cases outcome <;> rfl

@[simp] theorem settle_size (ticket : Ticket) (outcome : Broker.Outcome) (w : World) :
    (w.settle ticket outcome).channels.size = w.channels.size := by
  cases ticket with
  | direct key => rfl
  | sample place sample =>
    cases outcome with
    | ok placement => rfl
    | error fault => exact size_modify _ _ _

/-- A callback adds its failure to the count of its channel. -/
theorem settle_failures {ticket : Ticket} {w : World} (h : ticket.Known w)
    (outcome : Broker.Outcome) (place : Nat) :
    ((w.settle ticket outcome).channelState place).failures =
      (w.channelState place).failures + failedOf place [(ticket, outcome)] := by
  cases ticket with
  | direct key => rfl
  | sample p sample =>
    cases outcome with
    | ok placement => rfl
    | error fault =>
      -- only the channel of the ticket counts it
      show ((w.modifyChannel p _).channelState place).failures = _
      rw [channelState_modify]
      by_cases hp : p = place
      · subst hp
        rw [if_pos ⟨rfl, h⟩]
        show (w.channelState p).failures + 1 = _
        simp [failedOf]
      · rw [if_neg fun hand => hp hand.1]
        simp [failedOf, hp]

/-- The callback of a direct send adds its outcome to those completed, and no other does. -/
theorem settle_completed (ticket : Ticket) (outcome : Broker.Outcome) (w : World) :
    (w.settle ticket outcome).completed.toList =
      w.completed.toList ++ (direct? (ticket, outcome)).toList := by
  cases ticket with
  | direct key => exact Array.toList_push
  | sample place sample =>
    -- a channel's callback leaves the completed ones alone, whatever it reports
    cases outcome <;> exact (List.append_nil _).symm

theorem warnings_note (n : Notice) (w : World) :
    (w.note n).warnings = w.warnings ++ (failedDelivery? n).toList := by
  show (w.log.push n).toList.filterMap failedDelivery? = _
  rw [Array.toList_push, List.filterMap_append, filterMap_cons_toList, List.filterMap_nil,
    List.append_nil]
  rfl

/-- The callback of a channel's sample warns of a failure, and no other does. -/
theorem settle_warnings (ticket : Ticket) (outcome : Broker.Outcome) (w : World) :
    (w.settle ticket outcome).warnings = w.warnings ++ (warning? (ticket, outcome)).toList := by
  cases ticket with
  | direct key => exact (List.append_nil _).symm
  | sample place sample =>
    cases outcome with
    | ok placement => exact (List.append_nil _).symm
    | error fault => exact warnings_note (.deliveryFailed sample fault) _

/-- What every callback adds to, callbacks add to in their order. -/
theorem settleAll_adds {β : Type} (view : World → List β)
    (trace? : Ticket × Broker.Outcome → Option β)
    (h : ∀ ticket outcome w,
      view (w.settle ticket outcome) = view w ++ (trace? (ticket, outcome)).toList)
    (outcomes : List (Ticket × Broker.Outcome)) (w : World) :
    view (w.settleAll outcomes) = view w ++ outcomes.filterMap trace? := by
  induction outcomes generalizing w with
  | nil => exact (List.append_nil _).symm
  | cons c rest ih =>
    show view ((w.settle c.1 c.2).settleAll rest) = _
    rw [ih, h, List.append_assoc, filterMap_cons_toList]

theorem settleAll_completed (outcomes : List (Ticket × Broker.Outcome)) (w : World) :
    (w.settleAll outcomes).completed.toList =
      w.completed.toList ++ outcomes.filterMap direct? :=
  settleAll_adds (fun w => w.completed.toList) direct? settle_completed outcomes w

theorem settleAll_warnings (outcomes : List (Ticket × Broker.Outcome)) (w : World) :
    (w.settleAll outcomes).warnings = w.warnings ++ outcomes.filterMap warning? :=
  settleAll_adds warnings warning? settle_warnings outcomes w

@[simp] theorem settleAll_broker (outcomes : List (Ticket × Broker.Outcome)) (w : World) :
    (w.settleAll outcomes).broker = w.broker := by
  induction outcomes generalizing w with
  | nil => rfl
  | cons c rest ih => exact (ih _).trans (settle_broker c.1 c.2 w)

@[simp] theorem settleAll_size (outcomes : List (Ticket × Broker.Outcome)) (w : World) :
    (w.settleAll outcomes).channels.size = w.channels.size := by
  induction outcomes generalizing w with
  | nil => rfl
  | cons c rest ih => exact (ih _).trans (settle_size c.1 c.2 w)

end World

theorem Ticket.Known.of_size {w w' : World} {t : Ticket} (h : t.Known w)
    (hw : w.channels.size ≤ w'.channels.size) : t.Known w' := by
  cases t with
  | direct key => trivial
  | sample place sample => exact Nat.lt_of_lt_of_le h hw

theorem failedOf_append (place : Nat) (l₁ l₂ : List (Ticket × Broker.Outcome)) :
    failedOf place (l₁ ++ l₂) = failedOf place l₁ + failedOf place l₂ :=
  List.countP_append

/-- Callbacks add the failures that they report to the counts of their channels. -/
theorem World.settleAll_failures {outcomes : List (Ticket × Broker.Outcome)} {w : World}
    (h : ∀ c ∈ outcomes, c.1.Known w) (place : Nat) :
    ((w.settleAll outcomes).channelState place).failures =
      (w.channelState place).failures + failedOf place outcomes := by
  induction outcomes generalizing w with
  | nil => rfl
  | cons c rest ih =>
    have hc : c.1.Known w := h c List.mem_cons_self
    have hrest : ∀ d ∈ rest, d.1.Known (w.settle c.1 c.2) := fun d hd =>
      (h d (List.mem_cons_of_mem c hd)).of_size (Nat.le_of_eq (settle_size c.1 c.2 w).symm)
    show (((w.settle c.1 c.2).settleAll rest).channelState place).failures =
      _ + failedOf place ([c] ++ rest)
    rw [ih hrest, settle_failures hc, failedOf_append, Nat.add_assoc]

/-! ### The ledger -/

/-- What has been accepted, and what has been taken of the traces that callbacks leave, each in
order. -/
structure Ledger where
  accepted : List (Record × Ticket) := []
  /-- The outcomes of direct sends that were taken. -/
  collected : List (String × Broker.Outcome) := []
  /-- The warnings of failed deliveries that were taken with the log. -/
  warned : List (Sample × PublishFault) := []
  /-- The channel whose count was taken, and the count. -/
  taken : List (Nat × Nat) := []

namespace Ledger

/-- The ledger after a record has been sent. -/
def sent (l : Ledger) (reply : Reply (Except PublishFault Unit)) (entry : Record × Ticket) :
    Ledger :=
  match reply with
  | .value (.ok _) => { l with accepted := l.accepted ++ [entry] }
  | .value (.error _) | .panicked _ => l

/-- The sum of the counts taken from the channel at a place. -/
def takenFrom (place : Nat) (l : Ledger) : Nat :=
  l.taken.foldl (fun sum t => sum + if t.1 = place then t.2 else 0) 0

/-- What was rejected is not entered. -/
theorem sent_of_ne {reply : Reply (Except PublishFault Unit)} (h : reply ≠ .value (.ok ()))
    (l : Ledger) (entry : Record × Ticket) : l.sent reply entry = l := by
  unfold sent
  rcases reply with (_ | _) | _
  · rfl
  · exact absurd rfl h
  · rfl

end Ledger

/-- A delivery: the record with its ticket, and what became of it. -/
abbrev Delivered := (Record × Ticket) × Broker.Outcome

/-- The callbacks that deliveries call for, one for each, in order. -/
def callbacksOf (done : List Delivered) : List (Ticket × Broker.Outcome) :=
  done.map fun d => (d.1.2, d.2)

/-- The ledger agrees with the world, which has come out of the world `w₀` by the deliveries
`done`. -/
structure Balances (w₀ : World) (l : Ledger) (done : List Delivered) (w : World) : Prop where
  accepted : l.accepted = done.map (·.1) ++ w.broker.pending.toList
  logged : Broker.Logged (fun topic => (w₀.broker.records topic).toList)
    (done.map fun d => (d.1.1, d.2)) w.broker
  completed : l.collected ++ w.completed.toList =
    w₀.completed.toList ++ (callbacksOf done).filterMap direct?
  warnings : l.warned ++ w.warnings = w₀.warnings ++ (callbacksOf done).filterMap warning?
  failures : ∀ place, l.takenFrom place + (w.channelState place).failures =
    failedOf place (callbacksOf done)
  known : ∀ e ∈ l.accepted, e.2.Known w
  closed : w.broker.producerClosed = true → w.broker.pending = #[]

/-- What leaves alone what is pending and the traces of callbacks, and at most reshapes topics. -/
structure World.Aside (w w' : World) : Prop where
  broker : w.broker.Reshapes w'.broker
  pending : w'.broker.pending = w.broker.pending
  producer : w'.broker.producerClosed = w.broker.producerClosed
  channels : w.channels.size ≤ w'.channels.size
  failures : ∀ place, (w'.channelState place).failures = (w.channelState place).failures
  completed : w'.completed = w.completed
  warnings : w'.warnings = w.warnings

/-- What leaves the broker and the traces of callbacks alone. -/
structure World.Apart (w w' : World) : Prop where
  broker : w'.broker = w.broker
  channels : w'.channels.size = w.channels.size
  failures : ∀ place, (w'.channelState place).failures = (w.channelState place).failures
  completed : w'.completed = w.completed
  warnings : w'.warnings = w.warnings

theorem World.Apart.aside {w w' : World} (h : w.Apart w') : w.Aside w' where
  broker := .of_topics (by rw [h.broker])
  pending := by rw [h.broker]
  producer := by rw [h.broker]
  channels := Nat.le_of_eq h.channels.symm
  failures := h.failures
  completed := h.completed
  warnings := h.warnings

/-- Saying anything but that a delivery has failed. -/
theorem World.apart_note {n : Notice} (h : failedDelivery? n = none) (w : World) :
    w.Apart (w.note n) where
  broker := rfl
  channels := rfl
  failures _ := rfl
  completed := rfl
  warnings := by
    rw [warnings_note, h]
    exact List.append_nil _

section Steps

variable {w₀ w w' : World} {l : Ledger} {done : List Delivered}

theorem Balances.aside (h : Balances w₀ l done w) (hw : w.Aside w') : Balances w₀ l done w' := by
  refine ⟨?_, h.logged.reshape hw.broker, ?_, ?_, ?_, ?_, ?_⟩
  · rw [hw.pending]
    exact h.accepted
  · rw [hw.completed]
    exact h.completed
  · rw [hw.warnings]
    exact h.warnings
  · intro place
    rw [hw.failures]
    exact h.failures place
  · exact fun e he => (h.known e he).of_size hw.channels
  · rw [hw.producer, hw.pending]
    exact h.closed

/-- Saying anything but that a delivery has failed keeps the balance. -/
theorem Balances.note (h : Balances w₀ l done w) {n : Notice} (hn : failedDelivery? n = none) :
    Balances w₀ l done (w.note n) :=
  h.aside (World.apart_note hn w).aside

/-- An accepted record is the last of those pending. -/
theorem Balances.accept (h : Balances w₀ l done w) {entry : Record × Ticket}
    (hk : entry.2.Known w) (hopen : w.broker.producerClosed = false) :
    Balances w₀ { l with accepted := l.accepted ++ [entry] } done
      { w with broker := { w.broker with pending := w.broker.pending.push entry } } := by
  refine ⟨?_, h.logged.reshape (.of_topics rfl), h.completed, h.warnings, h.failures, ?_, ?_⟩
  · show l.accepted ++ [entry] = _
    rw [h.accepted, List.append_assoc]
    exact congrArg _ Array.toList_push.symm
  · intro e he
    rcases List.mem_append.mp he with he | he
    · exact (h.known e he).of_size (Nat.le_refl _)
    · rw [List.mem_singleton.mp he]
      exact hk.of_size (Nat.le_refl _)
  · intro hclosed
    rw [hopen] at hclosed
    cases hclosed

/-- The callbacks that a flush runs are those of accepted records. -/
theorem Balances.known_of_flush (h : Balances w₀ l done w) {c : Ticket × Broker.Outcome}
    (hc : c ∈ w.broker.flush.1) : c.1.Known w := by
  unfold Broker.flush at hc
  rw [Broker.deliverEach_fst] at hc
  obtain ⟨d, hd, rfl⟩ := List.mem_map.mp hc
  apply h.known d.1
  rw [h.accepted]
  apply List.mem_append_right
  rw [← Broker.map_fst_deliveries w.broker.pending.toList { w.broker with pending := #[] }]
  exact List.mem_map_of_mem hd

/-- The deliveries of what is pending. -/
def deliveriesOf (b : Broker Ticket) : List Delivered :=
  Broker.deliveries b.pending.toList { b with pending := #[] }

/-- A flush hands out the callbacks of its deliveries. -/
theorem callbacksOf_append_deliveriesOf (done : List Delivered) (b : Broker Ticket) :
    callbacksOf (done ++ deliveriesOf b) = callbacksOf done ++ b.flush.1 := by
  unfold callbacksOf
  rw [List.map_append]
  exact congrArg _ (Broker.deliverEach_fst _ _).symm

/-- Delivering what is pending runs a callback for each record, in order. -/
theorem Balances.deliver (h : Balances w₀ l done w) {b : Broker Ticket}
    (hb : w.broker.flush.2.Reshapes b) (hp : b.pending = #[]) :
    Balances w₀ l (done ++ deliveriesOf w.broker)
      (({ w with broker := b } : World).settleAll w.broker.flush.1) := by
  -- what was pending joins what is done
  refine ⟨?_, ?_, ?_, ?_, ?_, ?_, ?_⟩
  · rw [World.settleAll_broker, List.map_append]
    show l.accepted = _ ++ b.pending.toList
    rw [hp, h.accepted]
    unfold deliveriesOf
    rw [Broker.map_fst_deliveries]
    exact (List.append_nil _).symm
  · rw [World.settleAll_broker, List.map_append]
    have hempty : w.broker.Reshapes { w.broker with pending := #[] } := .of_topics rfl
    exact ((h.logged.reshape hempty).deliverEach w.broker.pending.toList).reshape hb
  · rw [World.settleAll_completed, callbacksOf_append_deliveriesOf, List.filterMap_append,
      ← List.append_assoc, ← List.append_assoc, ← h.completed]
  · rw [World.settleAll_warnings, callbacksOf_append_deliveriesOf, List.filterMap_append,
      ← List.append_assoc, ← List.append_assoc, ← h.warnings]
    rfl
  · intro place
    have hrun := World.settleAll_failures (w := { w with broker := b })
      (fun c hc => (h.known_of_flush hc).of_size (Nat.le_refl _)) place
    rw [hrun, callbacksOf_append_deliveriesOf, failedOf_append, ← h.failures place, Nat.add_assoc]
    rfl
  · intro e he
    have hsize : ({ w with broker := b } : World).channels.size ≤ _ :=
      Nat.le_of_eq (World.settleAll_size w.broker.flush.1 _).symm
    exact (h.known e he).of_size hsize
  · intro _
    rw [World.settleAll_broker]
    exact hp

theorem Balances.flush (h : Balances w₀ l done w) :
    Balances w₀ l (done ++ deliveriesOf w.broker) w.reachFlush.2 :=
  h.deliver (.of_topics rfl) (Broker.pending_flush w.broker)

theorem Balances.close (h : Balances w₀ l done w) :
    Balances w₀ l (done ++ deliveriesOf w.broker) w.reachClose.2 := by
  have hd := h.deliver (b := { w.broker.flush.2 with producerClosed := true }) (.of_topics rfl)
    (Broker.pending_flush w.broker)
  exact hd.note rfl

/-- Taking the count of a channel moves it to the ledger. -/
theorem Balances.take (h : Balances w₀ l done w) (place : Nat) :
    Balances w₀
      { l with
        taken := l.taken ++ [(place, ((World.failureCounter place).takeFailures w).1)] }
      done ((World.failureCounter place).takeFailures w).2 := by
  refine ⟨h.accepted, h.logged, h.completed, h.warnings, ?_, ?_, h.closed⟩
  · intro other
    have hcount := h.failures other
    unfold Ledger.takenFrom at hcount ⊢
    rw [List.foldl_append]
    show _ + (if place = other then (w.channelState place).failures else 0) +
      ((w.modifyChannel place fun c => { c with failures := 0 }).channelState other).failures = _
    rw [World.channelState_modify]
    by_cases ho : place = other
    · subst ho
      rw [if_pos rfl, ← hcount]
      by_cases hlt : place < w.channels.size
      · rw [if_pos ⟨rfl, hlt⟩]
        rfl
      · -- a channel that has not been opened has no failures
        have hzero : (w.channelState place).failures = 0 := by
          unfold World.channelState
          rw [Array.getD_eq_getD_getElem?, Array.getElem?_eq_none (Nat.le_of_not_lt hlt)]
          rfl
        rw [if_neg fun hand => hlt hand.2, hzero]
    · rw [if_neg ho, if_neg fun hand => ho hand.1]
      exact hcount
  · exact fun e he => (h.known e he).of_size (Nat.le_of_eq (World.size_modify _ _ _).symm)

/-- Taking the outcomes of direct sends moves them to the ledger. -/
theorem Balances.takeCompleted (h : Balances w₀ l done w) :
    Balances w₀ { l with collected := l.collected ++ w.takeCompleted.1 } done
      w.takeCompleted.2 := by
  refine ⟨h.accepted, h.logged, ?_, h.warnings, h.failures, h.known, h.closed⟩
  exact (List.append_nil _).trans h.completed

/-- Taking the log moves its warnings to the ledger. -/
theorem Balances.takeLog (h : Balances w₀ l done w) :
    Balances w₀ { l with warned := l.warned ++ w.takeLog.1.filterMap failedDelivery? } done
      w.takeLog.2 := by
  refine ⟨h.accepted, h.logged, h.completed, ?_, h.failures, h.known, h.closed⟩
  exact (List.append_nil _).trans h.warnings

end Steps

/-! ### What leaves the deliveries alone -/

theorem channelState_newChannel (topic : String) (w : World) (place : Nat) :
    ((Session.newChannel topic w).2.channelState place).failures =
      (w.channelState place).failures := by
  unfold Session.newChannel World.channelState
  dsimp only
  rw [Array.getD_eq_getD_getElem?, Array.getD_eq_getD_getElem?, Array.getElem?_push]
  by_cases h : place = w.channels.size
  · rw [if_pos h, h, Array.getElem?_eq_none (Nat.le_refl _)]
    rfl
  · rw [if_neg h]

theorem aside_newChannel (topic : String) (w : World) :
    w.Aside (Session.newChannel topic w).2 where
  broker := .of_topics rfl
  pending := rfl
  producer := rfl
  channels := by
    show _ ≤ (Array.push _ _).size
    rw [Array.size_push]
    exact Nat.le_succ _
  failures := channelState_newChannel topic w
  completed := rfl
  warnings := rfl

theorem aside_failSends (count : Nat) (w : World) : w.Aside (w.failSends count) where
  broker := .of_topics rfl
  pending := rfl
  producer := rfl
  channels := Nat.le_refl _
  failures _ := rfl
  completed := rfl
  warnings := rfl

/-- The broker's answer to a request, before anything is said about it. -/
theorem aside_handle (r : AdminRequest) (w : World) :
    w.Aside { w with broker := (w.broker.handle r).2 } where
  broker := Broker.reshapes_handle w.broker r
  pending := (Broker.queue_handle w.broker r).1
  producer := (Broker.queue_handle w.broker r).2
  channels := Nat.le_refl _
  failures _ := rfl
  completed := rfl
  warnings := rfl

theorem Balances.request {w₀ w : World} {l : Ledger} {done : List Delivered}
    (h : Balances w₀ l done w) (r : AdminRequest) : Balances w₀ l done (w.reachAdmin r).2 := by
  have hb := h.aside (aside_handle r w)
  -- a request is at most answered with the word that a topic was created
  unfold World.reachAdmin
  generalize w.broker.handle r = answered at hb
  unfold Broker.noticesOf
  dsimp only
  split
  · exact hb.note rfl
  · exact hb

/-! ### Traffic -/

/-- The traffic that starts in the world `w₀`, with nothing pending and no failures counted: the
ledger so far, and the world. -/
inductive Traffic (w₀ : World) : Ledger → World → Prop
  | start : w₀.broker.pending = #[] → (∀ place, (w₀.channelState place).failures = 0) →
    Traffic w₀ {} w₀
  | openChannel {l : Ledger} {w : World} (topic : String) : Traffic w₀ l w →
    Traffic w₀ l (Session.newChannel topic w).2
  | publish {l : Ledger} {w : World} (place : Nat) (sample : Sample) : Traffic w₀ l w →
    place < w.channels.size →
    Traffic w₀ (l.sent (w.publishTo place sample).1 (w.entryOf place sample))
      (w.publishTo place sample).2
  | send {l : Ledger} {w : World} (r : Record) : Traffic w₀ l w →
    Traffic w₀ (l.sent (.value (w.sendDirect r).1) (r, .direct r.key)) (w.sendDirect r).2
  | flush {l : Ledger} {w : World} : Traffic w₀ l w → Traffic w₀ l w.reachFlush.2
  | close {l : Ledger} {w : World} : Traffic w₀ l w → Traffic w₀ l w.reachClose.2
  | failSends {l : Ledger} {w : World} (count : Nat) : Traffic w₀ l w →
    Traffic w₀ l (w.failSends count)
  | request {l : Ledger} {w : World} (r : AdminRequest) : Traffic w₀ l w →
    Traffic w₀ l (w.reachAdmin r).2
  | takeFailures {l : Ledger} {w : World} (place : Nat) : Traffic w₀ l w →
    Traffic w₀
      { l with
        taken := l.taken ++ [(place, ((World.failureCounter place).takeFailures w).1)] }
      ((World.failureCounter place).takeFailures w).2
  | takeCompleted {l : Ledger} {w : World} : Traffic w₀ l w →
    Traffic w₀ { l with collected := l.collected ++ w.takeCompleted.1 } w.takeCompleted.2
  | takeLog {l : Ledger} {w : World} : Traffic w₀ l w →
    Traffic w₀ { l with warned := l.warned ++ w.takeLog.1.filterMap failedDelivery? } w.takeLog.2
  /-- Something else happens in the world. -/
  | elsewhere {l : Ledger} {w w' : World} : Traffic w₀ l w → w.Apart w' → Traffic w₀ l w'

section Run

variable {w₀ w : World} {l : Ledger}

/-- Throughout the traffic, the ledger agrees with the world. -/
theorem Traffic.balances (h : Traffic w₀ l w) : ∃ done, Balances w₀ l done w := by
  induction h with
  | start hp hf =>
    refine ⟨[], ?_, ?_, ?_, ?_, ?_, nofun, fun _ => hp⟩
    · rw [hp]
      rfl
    · refine ⟨fun topic => (List.append_nil _).symm, ?_⟩
      intro before r p after hd
      exact absurd hd.symm (List.append_ne_nil_of_right_ne_nil _ (List.cons_ne_nil _ _))
    · exact (List.append_nil _).symm
    · exact (List.append_nil _).symm
    · intro place
      exact (Nat.zero_add _).trans (hf place)
  | openChannel topic _ ih =>
    obtain ⟨done, hb⟩ := ih
    exact ⟨done, hb.aside (aside_newChannel topic _)⟩
  | @publish l w place sample _ hplace ih =>
    obtain ⟨done, hb⟩ := ih
    refine ⟨done, ?_⟩
    have hsaid : Balances w₀ l done (w.note (.sending sample)) := hb.note rfl
    rcases publishTo_cases place sample w with ⟨hok, hopen, hw⟩ | ⟨hno, hw | hw⟩
    · rw [hok, hw]
      have hk : (w.entryOf place sample).2.Known (w.note (.sending sample)) := hplace
      exact hsaid.accept hk hopen
    · rw [Ledger.sent_of_ne hno, hw]
      exact hb
    · rw [Ledger.sent_of_ne hno, hw]
      exact hsaid
  | @send l w r _ ih =>
    obtain ⟨done, hb⟩ := ih
    refine ⟨done, ?_⟩
    rcases sendDirect_cases r w with ⟨hok, hopen, hw⟩ | ⟨hno, hw⟩
    · rw [hok, hw]
      have hk : (Ticket.direct r.key).Known w := trivial
      exact hb.accept hk hopen
    · have hreply : Reply.value (w.sendDirect r).1 ≠ .value (.ok ()) :=
        fun heq => hno (Reply.value.inj heq)
      rw [Ledger.sent_of_ne hreply, hw]
      exact hb
  | flush _ ih =>
    obtain ⟨done, hb⟩ := ih
    exact ⟨_, hb.flush⟩
  | close _ ih =>
    obtain ⟨done, hb⟩ := ih
    exact ⟨_, hb.close⟩
  | failSends count _ ih =>
    obtain ⟨done, hb⟩ := ih
    exact ⟨done, hb.aside (aside_failSends count _)⟩
  | request r _ ih =>
    obtain ⟨done, hb⟩ := ih
    exact ⟨done, hb.request r⟩
  | takeFailures place _ ih =>
    obtain ⟨done, hb⟩ := ih
    exact ⟨done, hb.take place⟩
  | takeCompleted _ ih =>
    obtain ⟨done, hb⟩ := ih
    exact ⟨done, hb.takeCompleted⟩
  | takeLog _ ih =>
    obtain ⟨done, hb⟩ := ih
    exact ⟨done, hb.takeLog⟩
  | elsewhere _ hw ih =>
    obtain ⟨done, hb⟩ := ih
    exact ⟨done, hb.aside hw.aside⟩

/-- **Nothing is lost, nothing happens twice, and order is kept.**  At every moment of the traffic:

* the accepted records are those delivered, `done`, followed by those pending, in the order of
  their acceptance;
* the callbacks have run once for each of `done`, in that order: the outcomes of direct sends that
  were taken or wait to be taken are theirs, so are the warnings in the log, and for each channel
  the counts taken and the present one sum up to the failures reported to it;
* a topic's log holds the delivered records that were appended to it, in order, and a placement
  tells where its record stands in the log, in a partition that the topic has;
* a flush and the end of the producer leave nothing pending; they run the callback of whatever
  was, one after the other in the order of acceptance, and nothing is pending once the producer is
  closed;
* a rejected record leaves no trace but, at most, the word that it was being sent. -/
theorem Traffic.accounts (h : Traffic w₀ l w) :
    (∃ done : List Delivered,
      l.accepted = done.map (·.1) ++ w.broker.pending.toList ∧
      l.collected ++ w.completed.toList =
        w₀.completed.toList ++ (callbacksOf done).filterMap direct? ∧
      l.warned ++ w.warnings = w₀.warnings ++ (callbacksOf done).filterMap warning? ∧
      (∀ place, l.takenFrom place + (w.channelState place).failures =
        failedOf place (callbacksOf done)) ∧
      (∀ topic, (w.broker.records topic).toList =
        (w₀.broker.records topic).toList ++
          Broker.appended topic (done.map fun d => (d.1.1, d.2))) ∧
      ∀ before e p after, done = before ++ (e, .ok p) :: after →
        p.topic = e.1.topic ∧
        p.offset = ((w₀.broker.records e.1.topic).toList ++
          Broker.appended e.1.topic (before.map fun d => (d.1.1, d.2))).length ∧
        (w.broker.records p.topic)[p.offset]? = some e.1 ∧
        ∃ t, w.broker.topic? p.topic = some t ∧ p.partition < max t.partitions 1) ∧
    (w.reachFlush.2.broker.pending = #[] ∧
      w.broker.flush.1.map (·.1) = w.broker.pending.toList.map (·.2) ∧
      w.reachFlush.2 = w.broker.flush.1.foldl (fun (v : World) c => v.settle c.1 c.2)
        { w with broker := w.broker.flush.2 }) ∧
    (w.reachClose.2.broker.pending = #[] ∧ w.reachClose.2.broker.producerClosed = true ∧
      w.broker.closeProducer.1.map (·.1) = w.broker.pending.toList.map (·.2) ∧
      w.reachClose.2 = (w.broker.closeProducer.1.foldl (fun (v : World) c => v.settle c.1 c.2)
        { w with broker := w.broker.closeProducer.2 }).note .brokerProducerClosed) ∧
    (w.broker.producerClosed = true → w.broker.pending = #[]) ∧
    (∀ r, (w.sendDirect r).1 ≠ .ok () → (w.sendDirect r).2 = w) ∧
    (∀ place sample, (w.publishTo place sample).1 ≠ .value (.ok ()) →
      (w.publishTo place sample).2 = w ∨
        (w.publishTo place sample).2 = w.note (.sending sample)) := by
  obtain ⟨done, hb⟩ := h.balances
  have htickets : w.broker.flush.1.map (·.1) = w.broker.pending.toList.map (·.2) :=
    Broker.tickets_deliverEach _ _
  refine ⟨⟨done, hb.accepted, hb.completed, hb.warnings, hb.failures, hb.logged.records, ?_⟩,
    ⟨?_, htickets, rfl⟩, ⟨?_, ?_, htickets, rfl⟩, hb.closed, ?_, ?_⟩
  · intro before e p after hd
    have hsplit : (done.map fun d => (d.1.1, d.2)) =
        (before.map fun d => (d.1.1, d.2)) ++
          (e.1, .ok p) :: after.map fun d => (d.1.1, d.2) := by
      rw [hd, List.map_append, List.map_cons]
    obtain ⟨htopic, hoffset, hpartition⟩ := hb.logged.placed _ _ _ _ hsplit
    refine ⟨htopic, hoffset, hb.logged.getElem?_offset hsplit, ?_⟩
    rw [htopic]
    exact hpartition
  · show (World.settleAll _ _).broker.pending = #[]
    rw [World.settleAll_broker]
    exact Broker.pending_flush w.broker
  · show (World.settleAll _ _).broker.pending = #[]
    rw [World.settleAll_broker]
    exact Broker.pending_flush w.broker
  · show (World.settleAll _ _).broker.producerClosed = true
    rw [World.settleAll_broker]
  · intro r hr
    rcases sendDirect_cases r w with ⟨hok, -⟩ | ⟨-, hw⟩
    · exact absurd hok hr
    · exact hw
  · intro place sample hr
    rcases publishTo_cases place sample w with ⟨hok, -⟩ | ⟨-, hw⟩
    · exact absurd hok hr
    · exact hw

/-- A sample and a direct record are sent to topics that do not exist: both deliveries fail, the
sample's is counted and warned of once, and the record's outcome is collected once. -/
theorem accounts_of_unknown_topic :
    ∃ l w, Traffic {} l w ∧ w.broker.pending = #[] ∧ l.takenFrom 0 = 1 ∧
      l.collected = [("key", .error (.delivery "plain" "unknown topic"))] ∧
      ∃ done, done.length = 2 ∧ l.accepted = done.map (·.1) ∧
        (callbacksOf done).filterMap direct? = l.collected ∧
        (callbacksOf done).filterMap warning? = w.warnings ∧
        failedOf 0 (callbacksOf done) = 1 := by
  have ht : Traffic {} _ _ :=
    (((((Traffic.start rfl fun _ => rfl).openChannel "metrics").publish 0
      ⟨.custom, 0, 0, "LOAD", 0⟩ (by decide)).send
      ⟨"plain", "key", 0, "value"⟩).flush.takeFailures 0).takeCompleted
  obtain ⟨⟨done, haccepted, hcompleted, hwarnings, hfailures, -⟩, -⟩ := ht.accounts
  refine ⟨_, _, ht, rfl, rfl, rfl, done, ?_, ?_, ?_, ?_, ?_⟩
  · have hlength := congrArg List.length haccepted
    rw [List.length_append, List.length_map] at hlength
    exact hlength.symm
  · exact haccepted.trans (List.append_nil _)
  · exact hcompleted.symm
  · exact hwarnings.symm
  · exact (hfailures 0).symm

end Run

end MetricFeed.Rehearsal
