/-
MetricFeed/Proofs/Reporting/Course.lean

The course of a reporting loop: steps of the loop at the instants at which it is due, and between
them time that passes and others who change the state of the surroundings.  `others` says what
these may do; a theorem on all courses holds for every interleaving.

A course keeps the history of its events, the latest first.

* `Course.invariant` : what every event keeps, and what the surroundings and others keep between
  events, holds throughout;
* `Course.isOpen_of_tick`, `Course.not_two_ticks` : after a pass comes the account of its
  iteration, before anything else, so no pass follows another directly.
-/
import MetricFeed.Proofs.Reporting.Step

namespace MetricFeed

variable {S H : Type}

/-! ### Courses -/

/-- The course of a loop that gets its clock while the surroundings are in the state `s₀`: the
present instant, the history, the loop, and the state of the surroundings. -/
inductive Course (setup : LoopSetup) (sur : Surroundings S H) (others : S → S → Prop) (s₀ : S) :
    Nat → List (LoopEvent S) → LoopState S → S → Prop
  | start (now : Nat) : Course setup sur others s₀ now [] (setup.initial S now) s₀
  /-- Time passes, and others act. -/
  | wait {now later : Nat} {history : List (LoopEvent S)} {st : LoopState S} {s s' : S} :
    Course setup sur others s₀ now history st s → now ≤ later → others s s' →
    Course setup sur others s₀ later history st s'
  | step {now : Nat} {history : List (LoopEvent S)} {st : LoopState S} {s : S} :
    Course setup sur others s₀ now history st s → st.isDue sur now s = true →
    Course setup sur others s₀ now ((st.event? setup sur now s).toList ++ history)
      (st.step setup sur now s).1 (st.step setup sur now s).2

/-! ### Invariants of courses -/

section Invariants

variable {setup : LoopSetup} {sur : Surroundings S H} {others R : S → S → Prop} {s₀ s : S}
variable {now : Nat} {history : List (LoopEvent S)} {st : LoopState S}

/-- A call that has been made by an instant has been made by every later one. -/
theorem LoopState.Awaits.later {later : Nat} (h : st.Awaits (sur.calls setup now))
    (hle : now ≤ later) : st.Awaits (sur.calls setup later) := by
  refine h.imp ?_ ?_ ?_
  · rintro r _ ⟨made, s, hmade, rfl⟩
    exact ⟨made, s, Nat.le_trans hmade hle, rfl⟩
  · rintro _ ⟨made, s, hmade, rfl⟩
    exact ⟨made, s, Nat.le_trans hmade hle, rfl⟩
  · rintro _ ⟨made, s, hmade, rfl⟩
    exact ⟨made, s, Nat.le_trans hmade hle, rfl⟩

/-- Throughout a course, the call that is waited for is one that the loop has made. -/
theorem Course.awaits (h : Course setup sur others s₀ now history st s) :
    st.Awaits (sur.calls setup now) := by
  induction h with
  | start now =>
    unfold LoopSetup.initial
    rcases setup.clock.nowMs? now with _ | nowMs <;> trivial
  | wait _ hle _ ih => exact ih.later hle
  | step _ _ ih => exact step_awaits (sur.makes_calls setup _) ih

/-- Throughout a course, the call that is waited for acts as the surroundings do. -/
theorem Course.callWithin (hR : sur.IdleWithin R)
    (h : Course setup sur others s₀ now history st s) : st.CallWithin R :=
  h.awaits.callWithin hR

/-- The invariants of courses: what holds at the start, is kept while the surroundings act outside
passes and while others act, and is kept by every event, holds throughout. -/
theorem Course.invariant (hR : sur.IdleWithin R)
    {I : List (LoopEvent S) → Rates → LoopStats → S → Prop} (start : I [] {} {} s₀)
    (idle : ∀ {history rates stats s s'}, R s s' → I history rates stats s →
      I history rates stats s')
    (others_act : ∀ {history rates stats s s'}, others s s' → I history rates stats s →
      I history rates stats s')
    (tick : ∀ {history stats} (t : Tick S), I history t.rates stats t.state →
      I (.tick t :: history) (t.final setup sur).rates (t.count setup sur stats)
        (t.final setup sur).state)
    (summary : ∀ {history rates} {stats : LoopStats} {nowMs s}, I history rates stats s →
      I (.summary nowMs s :: history) rates
        { stats with deliveryFailures := stats.deliveryFailures + sur.channel.failures s }
        (sur.channel.takeFailures s).2)
    (h : Course setup sur others s₀ now history st s) : I history st.rates st.stats s := by
  induction h with
  | start now =>
    unfold LoopSetup.initial
    rcases setup.clock.nowMs? now with _ | nowMs
    · exact start
    · exact start
  | wait _ _ ho ih => exact others_act ho ih
  | @step now history st s hcourse _ ih =>
    -- what the step does is idle before its event, the event, and idle after it
    have hl := step_leads setup now s hR (hcourse.callWithin hR)
    generalize st.event? setup sur now s = e? at hl
    generalize (st.step setup sur now s).1 = st' at hl
    generalize (st.step setup sur now s).2 = s' at hl
    cases hl with
    | quiet hr hs h =>
      rw [hr, hs]
      exact idle h ih
    | @tick t _ _ ht h hr hs h' =>
      rw [hr, hs]
      rw [← ht] at ih
      exact idle h' (tick t (idle h ih))
    | summary h hr hs h' =>
      rw [hr, hs]
      exact idle h' (summary (idle h ih))

/-- As long as the last event is a pass, its iteration is open. -/
theorem Course.isOpen_of_tick (h : Course setup sur others s₀ now history st s) {t : Tick S}
    {earlier : List (LoopEvent S)} (ht : history = .tick t :: earlier) : st.IsOpen := by
  induction h generalizing t earlier with
  | start => cases ht
  | wait _ _ _ ih => exact ih ht
  | @step now history st s _ hdue ih =>
    rcases he : st.event? setup sur now s with _ | e
    · -- nothing has happened since, so the iteration was open before
      rw [he] at ht
      rcases event?_of_isOpen setup (ih ht) hdue with ⟨_, _, hs⟩ | ⟨-, ho⟩
      · rw [he] at hs
        cases hs
      · exact ho
    · -- the pass is this step's own event
      rw [he] at ht
      cases ht
      exact step_isOpen he

/-- The event that comes directly after a pass is the account of its iteration. -/
theorem Course.not_two_ticks (h : Course setup sur others s₀ now history st s) {t t' : Tick S}
    {later earlier : List (LoopEvent S)} : history ≠ later ++ .tick t' :: .tick t :: earlier := by
  induction h generalizing later with
  | start => simp
  | wait _ _ _ ih => exact ih
  | @step now history st s hcourse hdue ih =>
    rcases he : st.event? setup sur now s with _ | e
    · exact ih
    · intro heq
      rcases later with _ | ⟨e', later⟩
      · -- the pass that the step makes would follow one that is still open
        obtain ⟨rfl, hh⟩ := List.cons.inj heq
        rcases event?_of_isOpen setup (hcourse.isOpen_of_tick hh) hdue with
          ⟨_, _, hs⟩ | ⟨hs, -⟩
        · rw [he] at hs
          cases hs
        · rw [he] at hs
          cases hs
      · exact ih (List.cons.inj heq).2

end Invariants

/-! ### Quiet surroundings -/

/-- A call that is answered at once and does nothing. -/
def Flight.answering {α : Type} (a : α) : Flight S α := .immediate fun s => (.value a, s)

/-- Surroundings in which there is nothing to report but the host, nothing fails and nothing is
written to the log. -/
def Surroundings.quiet (S : Type) : Surroundings S Empty where
  note _ s := s
  cancelled _ := false
  walk := none
  registered _ := []
  idOf := Empty.elim
  read handle _ := handle.elim
  converter :=
    { sample := fun id value now nodeId s =>
        (.value (some ⟨.custom, nodeId, now, Conversion.metricType id, value⟩), s)
      host := fun now nodeId s => (.value (Conversion.hostSample (some 0) now nodeId), s) }
  channel :=
    { failures := fun _ => 0
      setFailures := fun _ s => s
      note := fun _ s => s
      topic := "metrics"
      serialize := fun sample s => (.value (.ok sample.metricType), s)
      producer :=
        { send := fun _ _ s => (.value (.ok ()), s)
          flush := fun s => (.answering (.ok ()), s)
          close := fun _ s => (.answering (.ok ()), s) }
      isClosed := fun _ => false
      markClosed := fun s => s }
  admin _ s := (.answering (.error (.network "")), s)
  favoursCall s := (false, s)

/-- A loop without a topic to provision, with an iteration every millisecond. -/
def LoopSetup.everyMilli : LoopSetup :=
  { nodeId := 0, interval := .ofMillis 1, clock := ⟨0, 0⟩ }

end MetricFeed
