/-
MetricFeed/Proofs/Reporting/Failures.lean

The account of failed deliveries.  A delivery is completed some time after its record is accepted:
in a flush of the loop, in a flush of somebody else, in the midst of a pass or while the loop
sleeps.  `Surroundings.delivering` puts a desk in front of any surroundings at which deliveries are
completed after every single action, as an arbitrary schedule says; each is completed once, and a
failure is counted when it is completed.

The loop takes the count twice in an iteration: a pass begins by throwing it away, and at the end
of the iteration it is added to the statistics.  So between two events of a course the failures
completed gather in the count (`Desk.Gathers`), and the next event takes them.

Main result (`Course.delivery_account`): every failed delivery is taken by exactly one event.
Those that complete in a pass or later in its iteration are counted; those that complete before the
next pass begins are discarded by it.
-/
import MetricFeed.Broker.Delivery
import MetricFeed.Proofs.Reporting.Course

namespace MetricFeed

variable {S H α : Type}

/-! ### The desk -/

/-- How many of the completed deliveries have failed. -/
def failedIn (completed : List (Sample × Broker.Outcome)) : Nat :=
  completed.countP fun c => match c.2 with
    | .ok _ => false
    | .error _ => true

theorem failedIn_append (l₁ l₂ : List (Sample × Broker.Outcome)) :
    failedIn (l₁ ++ l₂) = failedIn l₁ + failedIn l₂ :=
  List.countP_append

/-- A state of the surroundings with the deliveries of a channel. -/
structure Desk (S : Type) where
  base : S
  /-- The count of failed deliveries since it was last taken. -/
  failures : Nat := 0
  /-- The samples whose records are accepted and whose deliveries are not completed. -/
  pending : List Sample := []
  /-- The completed deliveries, in order. -/
  completed : List (Sample × Broker.Outcome) := []

/-- Which deliveries are completed after an action, by the surroundings before and after it: each
by its place among those pending, and its outcome. -/
abbrev Schedule (S : Type) := S → S → List (Nat × Broker.Outcome)

namespace Desk

/-- The count of failed deliveries at the desk. -/
def counter (sur : Surroundings S H) : FailureCounter (Desk S) where
  failures d := d.failures
  setFailures n d := { d with failures := n }
  note n d := { d with base := sur.channel.note n d.base }

/-- Completes the delivery at a place, if there is one. -/
def complete (sur : Surroundings S H) (d : Desk S) (pick : Nat × Broker.Outcome) : Desk S :=
  match d.pending[pick.1]? with
  | none => d
  | some sample =>
    (counter sur).settle sample pick.2
      { d with
        pending := d.pending.eraseIdx pick.1
        completed := d.completed ++ [(sample, pick.2)] }

def completeAll (sur : Surroundings S H) (picks : List (Nat × Broker.Outcome)) (d : Desk S) :
    Desk S :=
  picks.foldl (complete sur) d

/-- An action of the surroundings, and the deliveries that are completed after it. -/
def act (sur : Surroundings S H) (schedule : Schedule S) (f : S → α × S) (d : Desk S) :
    α × Desk S :=
  ((f d.base).1, completeAll sur (schedule d.base (f d.base).2) { d with base := (f d.base).2 })

/-- A call to the surroundings: deliveries are completed when it is made and when it is answered. -/
def actFlight (sur : Surroundings S H) (schedule : Schedule S) (f : S → Flight S α × S)
    (d : Desk S) : Flight (Desk S) α × Desk S :=
  (⟨(f d.base).1.delay, act sur schedule (f d.base).1.finish⟩, (act sur schedule f d).2)

/-- Hands a record to the producer; if it is accepted, its delivery is pending. -/
def send (sur : Surroundings S H) (schedule : Schedule S) (r : Record) (sample : Sample)
    (d : Desk S) : Reply (Except PublishFault Unit) × Desk S :=
  match sur.channel.producer.send r sample d.base with
  | (.value (.ok ()), s) =>
    (.value (.ok ()),
      completeAll sur (schedule d.base s) { d with base := s, pending := d.pending ++ [sample] })
  | (reply, s) => (reply, completeAll sur (schedule d.base s) { d with base := s })

end Desk

/-- The surroundings with a desk in front of them. -/
def Surroundings.delivering (sur : Surroundings S H) (schedule : Schedule S) :
    Surroundings (Desk S) H where
  note n d := (Desk.act sur schedule (fun s => ((), sur.note n s)) d).2
  cancelled d := sur.cancelled d.base
  walk := sur.walk.map (Desk.act sur schedule)
  registered d := sur.registered d.base
  idOf := sur.idOf
  read handle := Desk.act sur schedule (sur.read handle)
  converter :=
    { sample := fun id value now nodeId =>
        Desk.act sur schedule (sur.converter.sample id value now nodeId)
      host := fun now nodeId => Desk.act sur schedule (sur.converter.host now nodeId) }
  channel :=
    { toFailureCounter := Desk.counter sur
      topic := sur.channel.topic
      serialize := fun sample => Desk.act sur schedule (sur.channel.serialize sample)
      producer :=
        { send := Desk.send sur schedule
          flush := Desk.actFlight sur schedule sur.channel.producer.flush
          close := fun timeout =>
            Desk.actFlight sur schedule (sur.channel.producer.close timeout) }
      isClosed := fun d => sur.channel.isClosed d.base
      markClosed := fun d =>
        (Desk.act sur schedule (fun s => ((), sur.channel.markClosed s)) d).2 }
  admin r := Desk.actFlight sur schedule (sur.admin r)
  favoursCall := Desk.act sur schedule sur.favoursCall

namespace Desk

/-- What others do: they change the surroundings, send records through the same channel and bring
about that deliveries are completed. -/
def Others (sur : Surroundings S H) (others : S → S → Prop) (d d' : Desk S) : Prop :=
  ∃ s' sent picks, others d.base s' ∧
    d' = completeAll sur picks { d with base := s', pending := d.pending ++ sent }

/-! ### Failures gather in the count -/

/-- From one state of the desk to another, deliveries are completed, and each failure among them is
counted. -/
def Gathers (d d' : Desk S) : Prop :=
  ∃ more, d'.completed = d.completed ++ more ∧ d'.failures = d.failures + failedIn more

theorem Gathers.of_eq {d d' : Desk S} (hc : d'.completed = d.completed)
    (hf : d'.failures = d.failures) : Gathers d d' :=
  ⟨[], by rw [hc, List.append_nil], hf⟩

theorem Gathers.refl (d : Desk S) : Gathers d d := .of_eq rfl rfl

theorem Gathers.trans {d₁ d₂ d₃ : Desk S} (h : Gathers d₁ d₂) (h' : Gathers d₂ d₃) :
    Gathers d₁ d₃ := by
  obtain ⟨l₁, hc₁, hf₁⟩ := h
  obtain ⟨l₂, hc₂, hf₂⟩ := h'
  refine ⟨l₁ ++ l₂, ?_, ?_⟩
  · rw [hc₂, hc₁, List.append_assoc]
  · rw [hf₂, hf₁, failedIn_append, Nat.add_assoc]

variable {sur : Surroundings S H} {schedule : Schedule S}

theorem complete_gathers (d : Desk S) (pick : Nat × Broker.Outcome) :
    Gathers d (complete sur d pick) := by
  obtain ⟨place, outcome⟩ := pick
  unfold complete
  dsimp only
  rcases d.pending[place]? with _ | sample
  · exact .refl d
  · -- the one that is completed is counted exactly if it has failed
    refine ⟨[(sample, outcome)], ?_, ?_⟩
    · cases outcome <;> rfl
    · cases outcome <;> rfl

theorem completeAll_gathers (picks : List (Nat × Broker.Outcome)) (d : Desk S) :
    Gathers d (completeAll sur picks d) := by
  induction picks generalizing d with
  | nil => exact .refl d
  | cons pick rest ih => exact (complete_gathers d pick).trans (ih _)

theorem act_gathers (f : S → α × S) (d : Desk S) : Gathers d (act sur schedule f d).2 :=
  Gathers.trans (.of_eq rfl rfl) (completeAll_gathers _ _)

theorem send_gathers (r : Record) (sample : Sample) (d : Desk S) :
    Gathers d (send sur schedule r sample d).2 := by
  unfold send
  rcases sur.channel.producer.send r sample d.base with ⟨(_ | _) | _, s⟩ <;>
    exact Gathers.trans (.of_eq rfl rfl) (completeAll_gathers _ _)

theorem publish_gathers (sample : Sample) (d : Desk S) :
    Gathers d ((sur.delivering schedule).channel.publish sample d).2 := by
  have hs : Gathers d ((sur.delivering schedule).channel.serialize sample d).2 :=
    act_gathers _ d
  unfold Channel.publish
  revert hs
  rcases (sur.delivering schedule).channel.serialize sample d with ⟨(_ | payload) | _, d'⟩
  · exact fun hs => hs
  · -- only what has been serialized is sent
    intro hs
    refine hs.trans (Gathers.trans (.of_eq rfl rfl) (send_gathers _ _ _))
  · exact fun hs => hs

theorem others_gathers {others : S → S → Prop} {d d' : Desk S} (h : Others sur others d d') :
    Gathers d d' := by
  obtain ⟨s', sent, picks, -, rfl⟩ := h
  exact Gathers.trans (.of_eq rfl rfl) (completeAll_gathers _ _)

/-- Outside passes, failures gather in the count. -/
theorem idleWithin_gathers : (sur.delivering schedule).IdleWithin Gathers where
  refl := .refl
  trans := .trans
  note n := act_gathers fun s => ((), sur.note n s)
  flush := act_gathers _
  flushed _ := act_gathers _
  admin _ := act_gathers _
  answered _ _ := act_gathers _
  favoursCall := act_gathers _

/-- In passes, failures gather in the count. -/
theorem within_gathers : Pass.Within (sur.delivering schedule) Gathers where
  refl := .refl
  trans := .trans
  note n := act_gathers fun s => ((), sur.note n s)
  walk := by
    intro walk hwalk d
    obtain ⟨w, -, rfl⟩ := Option.map_eq_some_iff.mp hwalk
    exact act_gathers _ d
  read _ := act_gathers _
  sample _ _ _ _ := act_gathers _
  host _ _ := act_gathers _
  publish := publish_gathers

end Desk

/-! ### What the events of a course take -/

/-- The deliveries that are completed when the latest event of a history happens. -/
def completedBy : List (LoopEvent (Desk S)) → List (Sample × Broker.Outcome)
  | [] => []
  | e :: _ => e.state.completed

/-- The deliveries that are completed between the event before and this one. -/
def LoopEvent.recent (earlier : List (LoopEvent (Desk S))) (e : LoopEvent (Desk S)) :
    List (Sample × Broker.Outcome) :=
  e.state.completed.drop (completedBy earlier).length

/-- The failures that the accounts of a history take. -/
def counted : List (LoopEvent (Desk S)) → Nat
  | [] => 0
  | .tick _ :: earlier => counted earlier
  | .summary nowMs d :: earlier =>
    counted earlier + failedIn (LoopEvent.recent earlier (.summary nowMs d))

/-- The failures that the passes of a history take, which is to say throw away. -/
def discarded : List (LoopEvent (Desk S)) → Nat
  | [] => 0
  | .tick t :: earlier => discarded earlier + failedIn (LoopEvent.recent earlier (.tick t))
  | .summary _ _ :: earlier => discarded earlier

/-- Deliveries are only ever added to the completed ones, and every event finds in the count the
failures since the event before. -/
def Taken : List (LoopEvent (Desk S)) → Prop
  | [] => True
  | e :: earlier =>
    (completedBy earlier <+: e.state.completed ∧
      e.state.failures = failedIn (e.recent earlier)) ∧ Taken earlier

theorem Taken.of_append {later earlier : List (LoopEvent (Desk S))}
    (h : Taken (later ++ earlier)) : Taken earlier := by
  induction later with
  | nil => exact h
  | cons e later ih => exact ih h.2

/-- Every failed delivery is taken by exactly one event. -/
theorem Taken.counted_add_discarded {history : List (LoopEvent (Desk S))} (h : Taken history) :
    counted history + discarded history = failedIn (completedBy history) := by
  induction history with
  | nil => rfl
  | cons e earlier ih =>
    obtain ⟨⟨hextends, -⟩, hearlier⟩ := h
    have hsplit : failedIn e.state.completed =
        failedIn (completedBy earlier) + failedIn (e.recent earlier) := by
      obtain ⟨more, hmore⟩ := hextends
      unfold LoopEvent.recent
      rw [← hmore, failedIn_append, List.drop_left]
    have hrest := ih hearlier
    show _ = failedIn e.state.completed
    rw [hsplit, ← hrest]
    cases e with
    | tick t => exact (Nat.add_assoc _ _ _).symm
    | summary nowMs d => exact Nat.add_right_comm _ _ _

/-! ### Courses -/

section Courses

variable {setup : LoopSetup} {sur : Surroundings S H} {schedule : Schedule S}
variable {others : S → S → Prop} {s₀ : S} {now : Nat} {history : List (LoopEvent (Desk S))}
variable {st : LoopState (Desk S)} {d : Desk S}

/-- The account of failed deliveries in a course: the events have taken what was there to take,
and the failures since the last one are in the count. -/
structure Accounted (history : List (LoopEvent (Desk S))) (stats : LoopStats) (d : Desk S) :
    Prop where
  counted : stats.deliveryFailures = counted history
  taken : Taken history
  gathered : ∃ more, d.completed = completedBy history ++ more ∧ d.failures = failedIn more

theorem Accounted.gathers {stats : LoopStats} {d' : Desk S} (h : Accounted history stats d)
    (hd : Desk.Gathers d d') : Accounted history stats d' := by
  obtain ⟨more, hc, hf⟩ := h.gathered
  obtain ⟨more', hc', hf'⟩ := hd
  refine ⟨h.counted, h.taken, more ++ more', ?_, ?_⟩
  · rw [hc', hc, List.append_assoc]
  · rw [hf', hf, failedIn_append]

/-- An event takes the failures since the event before. -/
theorem Accounted.taken_cons {stats : LoopStats} {e : LoopEvent (Desk S)}
    (h : Accounted history stats e.state) : Taken (e :: history) := by
  obtain ⟨more, hc, hf⟩ := h.gathered
  refine ⟨⟨⟨more, hc.symm⟩, ?_⟩, h.taken⟩
  unfold LoopEvent.recent
  rw [hc, List.drop_left, hf]

theorem Course.accounted
    (h : Course setup (sur.delivering schedule) (Desk.Others sur others) { base := s₀ } now
      history st d) : Accounted history st.stats d := by
  refine h.invariant (I := fun history _ stats d => Accounted history stats d)
    Desk.idleWithin_gathers ?_ ?_ ?_ ?_ ?_
  · exact ⟨rfl, trivial, [], rfl, rfl⟩
  · exact fun hd hi => hi.gathers hd
  · exact fun hd hi => hi.gathers (Desk.others_gathers hd)
  · -- a pass: it begins with an empty count, in which failures gather again
    intro history stats t hi
    have htaken : Taken (.tick t :: history) := hi.taken_cons (e := .tick t)
    have hstart : Accounted (.tick t :: history)
        (t.count setup (sur.delivering schedule) stats)
        (t.start (sur.delivering schedule)).state :=
      ⟨hi.counted, htaken, [], (List.append_nil _).symm, rfl⟩
    exact hstart.gathers (Pass.run_within Desk.within_gathers _)
  · -- an account: what it takes goes to the statistics
    intro history rates stats nowMs d hi
    have htaken : Taken (.summary nowMs d :: history) := hi.taken_cons (e := .summary nowMs d)
    refine ⟨?_, htaken, [], (List.append_nil _).symm, rfl⟩
    show stats.deliveryFailures + d.failures = MetricFeed.counted history + _
    rw [hi.counted]
    exact congrArg _ htaken.1.2

/-- **The account of failed deliveries.**  However deliveries complete, every event of a course
takes the failures completed since the event before it, once and for all; those that the accounts
take are counted, those that the passes take are discarded.  A pass never follows a pass directly,
and a loop that has exited has accounted for its last pass; so what a pass discards was completed
before the first iteration or between the account of one iteration and the beginning of the next,
and all that completes in a pass or between it and the account of its iteration is counted. -/
theorem Course.delivery_account
    (h : Course setup (sur.delivering schedule) (Desk.Others sur others) { base := s₀ } now
      history st d) :
    st.stats.deliveryFailures = counted history ∧
    st.stats.deliveryFailures + discarded history = failedIn (completedBy history) ∧
    (∀ later e earlier, history = later ++ e :: earlier →
      completedBy earlier <+: e.state.completed ∧
        e.state.failures = failedIn (e.recent earlier)) ∧
    (∀ later t earlier, history = later ++ .tick t :: earlier →
      ∀ t', earlier.head? ≠ some (.tick t')) ∧
    (st.phase = .exited → ∀ t, history.head? ≠ some (.tick t)) := by
  obtain ⟨hcounted, htaken, -⟩ := h.accounted
  refine ⟨hcounted, ?_, ?_, ?_, ?_⟩
  · rw [hcounted]
    exact htaken.counted_add_discarded
  · rintro later e earlier rfl
    exact htaken.of_append.1
  · rintro later t earlier hhistory t' ht'
    obtain ⟨rest, rfl⟩ := List.head?_eq_some_iff.mp ht'
    exact h.not_two_ticks hhistory
  · -- a loop that has exited has no open iteration
    intro hexit t ht
    obtain ⟨rest, hrest⟩ := List.head?_eq_some_iff.mp ht
    have ho := h.isOpen_of_tick hrest
    unfold LoopState.IsOpen at ho
    rw [hexit] at ho
    exact ho

/-- Surroundings whose state is the request to stop. -/
def Surroundings.stoppable : Surroundings Bool Empty :=
  { Surroundings.quiet Bool with cancelled := id }

/-- A delivery that fails while the loop sleeps is discarded by the next pass, and missing in the
statistics of the loop when it has exited. -/
theorem deliveryFailures_ne_failedIn :
    ∃ now history st d, Course .everyMilli (Surroundings.stoppable.delivering fun _ _ => [])
        (Desk.Others .stoppable fun _ _ => True) { base := false } now history st d ∧
      st.phase = .exited ∧ st.stats.deliveryFailures ≠ failedIn (completedBy history) := by
  have hc : Course .everyMilli (Surroundings.stoppable.delivering fun _ _ => [])
      (Desk.Others .stoppable fun _ _ => True) { base := false } _ _ _ _ :=
    (((((((Course.start 0).wait (Nat.zero_le 1000000) ⟨false, [], [], trivial, rfl⟩).step
      rfl).step rfl).wait (show 1000000 ≤ 2000000 by decide)
      ⟨false, [], [(0, .error .closed)], trivial, rfl⟩).step (by decide)).step (by decide)).wait
      (Nat.le_refl 2000000) ⟨true, [], [], trivial, rfl⟩ |>.step (by decide)
  exact ⟨_, _, _, _, hc, rfl, by decide⟩

/-- A delivery that fails as soon as it is accepted is counted. -/
theorem deliveryFailures_of_failing :
    ∃ now history st d, Course .everyMilli
        (Surroundings.stoppable.delivering fun _ _ => [(0, .error .closed)])
        (Desk.Others .stoppable fun _ _ => True) { base := false } now history st d ∧
      discarded history = 0 ∧ st.stats.deliveryFailures = 1 := by
  have hc : Course .everyMilli
      (Surroundings.stoppable.delivering fun _ _ => [(0, .error .closed)])
      (Desk.Others .stoppable fun _ _ => True) { base := false } _ _ _ _ :=
    (((Course.start 0).wait (Nat.zero_le 1000000) ⟨false, [], [], trivial, rfl⟩).step rfl).step rfl
  obtain ⟨-, hsum, -⟩ := hc.delivery_account
  exact ⟨_, _, _, _, hc, rfl, hsum⟩

end Courses

end MetricFeed
