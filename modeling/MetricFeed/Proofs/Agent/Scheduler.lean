/-
MetricFeed/Proofs/Agent/Scheduler.lean

A scheduler that runs one loop.  Its task queues, or waits because it cannot go on, and whatever the
scheduler does, the loop is on a course (`Scheduler.Runs`): state changes and jumps of time are the
waits of the course, and turns are made of its steps.

Main result (`Runs.round`): once the loop has been told to stop, a round of turns brings it to
rest, before time goes on.
-/
import MetricFeed.Agent.Scheduler
import MetricFeed.Proofs.Reporting.Stopping

namespace MetricFeed

variable {S H : Type}

namespace Scheduler

/-! ### One task -/

/-- The only task is `t`; it queues, or it waits because it cannot go on. -/
def Holds (sch : Scheduler S H) (t : Task S H) : Prop :=
  sch.queue = [t] ∧ sch.idle = [] ∨
    sch.queue = [] ∧ sch.idle = [t] ∧ t.isDue sch.now sch.state = false

/-- The only task runs the loop of the given setup and surroundings, which is on a course. -/
structure Runs (sch : Scheduler S H) (id : Nat) (setup : LoopSetup) (sur : Surroundings S H)
    (st : LoopState S) : Prop where
  held : ∃ since, sch.Holds ⟨id, setup, sur, st, since⟩
  course : ∃ s₀ history, Course setup sur (fun _ _ => True) s₀ sch.now history st sch.state

section OneTask

variable {sch : Scheduler S H} {t : Task S H} {id : Nat} {setup : LoopSetup}
variable {sur : Surroundings S H} {st : LoopState S}

theorem Holds.tasks (h : sch.Holds t) : sch.tasks = [t] := by
  unfold Scheduler.tasks
  rcases h with ⟨hqueue, hidle⟩ | ⟨hqueue, hidle, -⟩ <;> rw [hqueue, hidle] <;> rfl

theorem Holds.task? (h : sch.Holds t) : sch.task? t.id = some t := by
  unfold Scheduler.task?
  rw [h.tasks]
  simp

theorem Holds.result? (h : sch.Holds t) : sch.result? t.id = t.result? := by
  unfold Scheduler.result?
  rw [h.task?]
  rfl

/-- Ending the only task leaves none. -/
theorem Holds.abort (h : sch.Holds t) : (sch.abort t.id).queue = [] ∧ (sch.abort t.id).idle = [] := by
  unfold Scheduler.abort
  rcases h with ⟨hqueue, hidle⟩ | ⟨hqueue, hidle, -⟩ <;> rw [hqueue, hidle] <;> simp

/-! ### Changes of state and time -/

/-- Calling up puts the task where it belongs. -/
theorem holds_callUp (h : sch.queue = [t] ∧ sch.idle = [] ∨ sch.queue = [] ∧ sch.idle = [t]) :
    sch.callUp.Holds t := by
  unfold Holds callUp
  rcases h with ⟨hqueue, hidle⟩ | ⟨hqueue, hidle⟩
  · rw [hqueue, hidle]
    exact .inl ⟨rfl, rfl⟩
  · rw [hqueue, hidle]
    by_cases hdue : t.isDue sch.now sch.state = true
    · simp [hdue]
    · simp [hdue]

/-- A scheduler at another instant and with another state has the same tasks. -/
theorem Holds.callUp_of_eq {sch' : Scheduler S H} (h : sch.Holds t)
    (hqueue : sch'.queue = sch.queue) (hidle : sch'.idle = sch.idle) : sch'.callUp.Holds t := by
  apply holds_callUp
  rw [hqueue, hidle]
  exact h.imp_right fun h => ⟨h.1, h.2.1⟩

@[simp] theorem callUp_state (sch : Scheduler S H) : sch.callUp.state = sch.state := rfl

/-- A jump of time leaves the surroundings alone. -/
@[simp] theorem jump_state (sch : Scheduler S H) (wake : Nat) :
    (sch.jump wake).state = sch.state :=
  callUp_state _

@[simp] theorem jump_now (sch : Scheduler S H) (wake : Nat) :
    (sch.jump wake).now = jumpTo sch.now wake :=
  rfl

@[simp] theorem callUp_nextId (sch : Scheduler S H) : sch.callUp.nextId = sch.nextId := rfl

@[simp] theorem jump_nextId (sch : Scheduler S H) (wake : Nat) :
    (sch.jump wake).nextId = sch.nextId :=
  callUp_nextId _

theorem Runs.setState (h : sch.Runs id setup sur st) (s : S) :
    (sch.setState s).Runs id setup sur st := by
  obtain ⟨⟨since, hheld⟩, s₀, history, hcourse⟩ := h
  exact ⟨⟨since, hheld.callUp_of_eq rfl rfl⟩, s₀, history,
    hcourse.wait (Nat.le_refl _) trivial⟩

theorem Runs.jump (h : sch.Runs id setup sur st) (wake : Nat) :
    (sch.jump wake).Runs id setup sur st := by
  obtain ⟨⟨since, hheld⟩, s₀, history, hcourse⟩ := h
  exact ⟨⟨since, hheld.callUp_of_eq rfl rfl⟩, s₀, history,
    hcourse.wait (Nat.le_add_right _ _) trivial⟩

/-- A loop that is started is on a course. -/
theorem runs_spawn (h : sch.tasks = []) (setup : LoopSetup) (sur : Surroundings S H) :
    (sch.spawn setup sur).2.Runs (sch.spawn setup sur).1 setup sur (setup.initial S sch.now) := by
  obtain ⟨hqueue, hidle⟩ := List.append_eq_nil_iff.mp h
  refine ⟨⟨0, .inl ⟨?_, hidle⟩⟩, sch.state, [], .start sch.now⟩
  show sch.queue ++ [_] = [_]
  rw [hqueue]
  rfl

/-! ### Turns -/

/-- A step of a turn is a step of the loop. -/
theorem advance_of_isDue (h : t.isDue sch.now sch.state = true) :
    sch.advance t [] =
      ({ sch with queue := [{ t with loop := (t.loop.step t.setup t.surroundings sch.now
          sch.state).1 }] } : Scheduler S H).setState
        (t.loop.step t.setup t.surroundings sch.now sch.state).2 := by
  unfold advance
  rw [if_pos h]
  rfl

/-- A task that ends its turn waits. -/
theorem advance_of_not_isDue (h : t.isDue sch.now sch.state = false) (hidle : sch.idle = []) :
    ∃ since, sch.advance t [] =
      { sch with queue := [], idle := [{ t with since }], turns := sch.turns + 1 } := by
  unfold advance
  rw [if_neg (Bool.eq_false_iff.mp h), hidle]
  unfold Task.rest
  split
  · exact ⟨t.since, rfl⟩
  · exact ⟨sch.turns + 1, rfl⟩

/-- Where no task queues, no turn is taken. -/
theorem takeTurns_of_queue_nil (last fuel : Nat) (h : sch.queue = []) :
    takeTurns last fuel sch = sch := by
  cases fuel with
  | zero => rfl
  | succ fuel =>
    unfold takeTurns
    rw [h]

theorem takeTurns_of_queue {last : Nat} (fuel : Nat) (hqueue : sch.queue = [t])
    (hlast : sch.turns < last) :
    takeTurns last (fuel + 1) sch = takeTurns last fuel (sch.advance t []) := by
  rw [takeTurns, hqueue]
  exact if_neg (Nat.not_le.mpr hlast)

/-- The step of a turn goes on with the course. -/
theorem Runs.advance (h : sch.Runs id setup sur st) (since : Nat) (hidle : sch.idle = [])
    (hdue : st.isDue sur sch.now sch.state = true) :
    (sch.advance ⟨id, setup, sur, st, since⟩ []).Runs id setup sur
        (st.step setup sur sch.now sch.state).1 ∧
      (sch.advance ⟨id, setup, sur, st, since⟩ []).turns = sch.turns ∧
      (sch.advance ⟨id, setup, sur, st, since⟩ []).now = sch.now ∧
      (sch.advance ⟨id, setup, sur, st, since⟩ []).state =
        (st.step setup sur sch.now sch.state).2 := by
  obtain ⟨-, s₀, history, hcourse⟩ := h
  rw [advance_of_isDue (t := ⟨id, setup, sur, st, since⟩) hdue]
  exact ⟨⟨⟨since, holds_callUp (.inl ⟨rfl, hidle⟩)⟩, s₀, _, hcourse.step hdue⟩, rfl, rfl, rfl⟩

/-- A turn that has ended leaves the loop where it was. -/
theorem Runs.rest (h : sch.Runs id setup sur st) (since : Nat) (hidle : sch.idle = [])
    (hrest : st.isDue sur sch.now sch.state = false) :
    (sch.advance ⟨id, setup, sur, st, since⟩ []).Runs id setup sur st ∧
      (sch.advance ⟨id, setup, sur, st, since⟩ []).queue = [] ∧
      (sch.advance ⟨id, setup, sur, st, since⟩ []).now = sch.now ∧
      (sch.advance ⟨id, setup, sur, st, since⟩ []).state = sch.state := by
  obtain ⟨since', hadvance⟩ :=
    advance_of_not_isDue (t := ⟨id, setup, sur, st, since⟩) hrest hidle
  rw [hadvance]
  exact ⟨⟨⟨since', .inr ⟨rfl, rfl, hrest⟩⟩, h.course⟩, rfl, rfl, rfl⟩

/-- A loop that cannot go on ends its turn. -/
theorem Runs.takeTurns_of_rest {last fuel : Nat} (h : sch.Runs id setup sur st)
    (hrest : st.isDue sur sch.now sch.state = false) (hlast : sch.turns < last)
    (hfuel : 0 < fuel) :
    (takeTurns last fuel sch).Runs id setup sur st ∧ (takeTurns last fuel sch).queue = [] ∧
      (takeTurns last fuel sch).now = sch.now ∧ (takeTurns last fuel sch).state = sch.state := by
  obtain ⟨fuel, rfl⟩ : ∃ k, fuel = k + 1 := ⟨fuel - 1, by omega⟩
  obtain ⟨since, ⟨hqueue, hidle⟩ | ⟨hqueue, -, -⟩⟩ := h.held
  · have hrested := h.rest since hidle hrest
    rw [takeTurns_of_queue fuel hqueue hlast, takeTurns_of_queue_nil last fuel hrested.2.1]
    exact hrested
  · rw [takeTurns_of_queue_nil last _ hqueue]
    exact ⟨h, hqueue, rfl, rfl⟩

/-- Turns bring a loop that has been told to stop to rest. -/
theorem Runs.takeTurns (hkeeps : sur.KeepsStop) {last fuel : Nat} (h : sch.Runs id setup sur st)
    (hcancelled : sur.cancelled sch.state = true) (hlast : sch.turns < last)
    (hfuel : st.stepsLeft setup < fuel) :
    ∃ st', st.ComesTo setup st' ∧ (takeTurns last fuel sch).Runs id setup sur st' ∧
      (takeTurns last fuel sch).queue = [] ∧ (takeTurns last fuel sch).now = sch.now ∧
      sur.cancelled (takeTurns last fuel sch).state = true := by
  induction fuel generalizing sch st with
  | zero => exact absurd hfuel (Nat.not_lt_zero _)
  | succ fuel ih =>
    by_cases hdue : st.isDue sur sch.now sch.state = true
    · obtain ⟨since, ⟨hqueue, hidle⟩ | ⟨-, -, hrest⟩⟩ := h.held
      · obtain ⟨s₀, history, hcourse⟩ := h.course
        obtain ⟨hstepped, hturns, hnow, hstate⟩ := h.advance since hidle hdue
        have hleft := step_stepsLeft hkeeps hcourse.awaits hcancelled hdue
        have hstill := step_cancelled hkeeps hcourse.awaits hcancelled hdue
        rw [takeTurns_of_queue fuel hqueue hlast]
        obtain ⟨st', hcomes, hruns, hempty, hnow', hcancelled'⟩ :=
          ih hstepped (hstate ▸ hstill) (hturns ▸ hlast) (by omega)
        exact ⟨st', (step_comesTo hkeeps hcourse.awaits hcancelled hdue).trans hcomes, hruns,
          hempty, hnow'.trans hnow, hcancelled'⟩
      · have hrest' : st.isDue sur sch.now sch.state = false := hrest
        rw [hrest'] at hdue
        cases hdue
    · obtain ⟨hruns, hempty, hnow, hstate⟩ :=
        h.takeTurns_of_rest (Bool.eq_false_iff.mpr hdue) hlast (Nat.succ_pos fuel)
      exact ⟨st, .refl st, hruns, hempty, hnow, hstate ▸ hcancelled⟩

/-- **A round of turns brings a loop that has been told to stop to rest.** -/
theorem Runs.round (hkeeps : sur.KeepsStop) {fuel : Nat} (h : sch.Runs id setup sur st)
    (hcancelled : sur.cancelled sch.state = true) (hfuel : 12 < fuel) :
    ∃ st', st.ComesTo setup st' ∧ (sch.round fuel).Runs id setup sur st' ∧
      (sch.round fuel).queue = [] ∧ (sch.round fuel).now = sch.now ∧
      sur.cancelled (sch.round fuel).state = true :=
  h.takeTurns hkeeps hcancelled (Nat.lt_add_of_pos_right (by decide))
    (Nat.lt_of_le_of_lt (stepsLeft_le setup st) hfuel)

/-- When the release of the administrative client is over, a loop that has been told to stop exits
in its turn. -/
theorem Runs.round_of_releasing (hkeeps : sur.KeepsStop) (hpanic : sur.NoPanic) {fuel : Nat}
    (h : sch.Runs id setup sur st) (hcancelled : sur.cancelled sch.state = true)
    {call : Call S (Except AdminFault Unit)} (hphase : st.phase = .releasing call)
    (hdue : call.isDue sch.now = true) (hfuel : 1 < fuel) :
    (sch.round fuel).Runs id setup sur { st with phase := .exited } := by
  have hdue' : st.isDue sur sch.now sch.state = true := by
    unfold LoopState.isDue
    rw [hphase]
    exact hdue
  obtain ⟨fuel, rfl⟩ : ∃ k, fuel = k + 1 := ⟨fuel - 1, by omega⟩
  obtain ⟨since, ⟨hqueue, hidle⟩ | ⟨-, -, hrest⟩⟩ := h.held
  · obtain ⟨s₀, history, hcourse⟩ := h.course
    obtain ⟨hstepped, hturns, -, -⟩ := h.advance since hidle hdue'
    rw [releasing_step hkeeps hpanic hcourse.awaits hcancelled hphase] at hstepped
    have hlast : sch.turns < sch.turns + turnsPerRound := Nat.lt_add_of_pos_right (by decide)
    unfold Scheduler.round
    rw [takeTurns_of_queue fuel hqueue hlast]
    exact (hstepped.takeTurns_of_rest rfl (hturns ▸ hlast) (by omega)).1
  · have hrest' : st.isDue sur sch.now sch.state = false := hrest
    rw [hrest'] at hdue'
    cases hdue'

/-! ### Results and timers -/

theorem Runs.result?_of_exited (h : sch.Runs id setup sur st) (hphase : st.phase = .exited) :
    sch.result? id = some (.exited st.stats) := by
  obtain ⟨since, hheld⟩ := h.held
  have hresult := hheld.result?
  unfold Task.result? at hresult
  simp only [hphase] at hresult
  exact hresult

/-- A loop that has not ended has no result. -/
theorem Runs.result?_eq_none (h : sch.Runs id setup sur st) (hgoing : st.phase ≠ .exited)
    (hwhole : ∀ message, st.phase ≠ .crashed message) : sch.result? id = none := by
  obtain ⟨since, hheld⟩ := h.held
  have hresult := hheld.result?
  unfold Task.result? at hresult
  dsimp only at hresult
  rw [hresult]
  rcases hphase : st.phase with _ | _ | _ | _ | _ | _ | message
  case exited => exact absurd hphase hgoing
  case crashed => exact absurd hphase (hwhole message)
  all_goals rfl

/-- A task that waits cannot go on, and its timer is the scheduler's. -/
theorem Runs.of_queue_nil (h : sch.Runs id setup sur st) (hqueue : sch.queue = []) :
    st.isDue sur sch.now sch.state = false ∧ sch.wake? = st.wake? := by
  obtain ⟨since, ⟨hqueue', -⟩ | ⟨-, hidle, hrest⟩⟩ := h.held
  · rw [hqueue] at hqueue'
    cases hqueue'
  · refine ⟨hrest, ?_⟩
    unfold Scheduler.wake?
    rw [hidle]
    rfl

/-! ### Loops that have ended -/

/-- The loop has exited with the given statistics, or it has been aborted. -/
inductive Over (sch : Scheduler S H) (id : Nat) : Option LoopStats → Prop
  | exited {setup : LoopSetup} {sur : Surroundings S H} {st : LoopState S} :
    sch.Runs id setup sur st → st.phase = .exited → Over sch id (some st.stats)
  | aborted : sch.queue = [] → sch.idle = [] → Over sch id none

variable {stats : Option LoopStats}

theorem isDue_of_exited {now : Nat} {s : S} (hphase : st.phase = .exited) :
    st.isDue sur now s = false := by
  unfold LoopState.isDue
  rw [hphase]

theorem callUp_of_nil (sch : Scheduler S H) (hqueue : sch.queue = []) (hidle : sch.idle = []) :
    sch.callUp.queue = [] ∧ sch.callUp.idle = [] := by
  unfold callUp
  rw [hqueue, hidle]
  exact ⟨rfl, rfl⟩

theorem Over.result? (h : sch.Over id stats) : sch.result? id = stats.map .exited := by
  cases h with
  | exited hruns hphase => exact hruns.result?_of_exited hphase
  | aborted hqueue hidle =>
    unfold Scheduler.result? Scheduler.task? Scheduler.tasks
    rw [hqueue, hidle]
    rfl

theorem Over.setState (h : sch.Over id stats) (s : S) : (sch.setState s).Over id stats := by
  cases h with
  | exited hruns hphase => exact .exited (hruns.setState s) hphase
  | aborted hqueue hidle =>
    have hnil := callUp_of_nil { sch with state := s } hqueue hidle
    exact .aborted hnil.1 hnil.2

theorem Over.jump (h : sch.Over id stats) (wake : Nat) : (sch.jump wake).Over id stats := by
  cases h with
  | exited hruns hphase => exact .exited (hruns.jump wake) hphase
  | aborted hqueue hidle =>
    have hnil := callUp_of_nil { sch with now := jumpTo sch.now wake } hqueue hidle
    exact .aborted hnil.1 hnil.2

/-- In a round, a loop that has ended at most ends its turn. -/
theorem Over.round {fuel : Nat} (h : sch.Over id stats) (hfuel : 0 < fuel) :
    (sch.round fuel).Over id stats ∧ (sch.round fuel).queue = [] := by
  cases h with
  | exited hruns hphase =>
    obtain ⟨hruns', hqueue, -, -⟩ := hruns.takeTurns_of_rest (isDue_of_exited hphase)
      (Nat.lt_add_of_pos_right (show 0 < turnsPerRound by decide)) hfuel
    exact ⟨.exited hruns' hphase, hqueue⟩
  | aborted hqueue hidle =>
    have hround : sch.round fuel = sch := takeTurns_of_queue_nil _ fuel hqueue
    rw [hround]
    exact ⟨.aborted hqueue hidle, hqueue⟩

/-- A loop that has ended has no timer. -/
theorem Over.wake? (h : sch.Over id stats) (hqueue : sch.queue = []) : sch.wake? = none := by
  cases h with
  | @exited _ _ st hruns hphase =>
    rw [(hruns.of_queue_nil hqueue).2]
    unfold LoopState.wake?
    rw [hphase]
  | aborted _ hidle =>
    unfold Scheduler.wake?
    rw [hidle]
    rfl

end OneTask

end Scheduler

end MetricFeed
