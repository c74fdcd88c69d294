/-
MetricFeed/Proofs/Agent/Turns.lean

Turns of a scheduler whose only task runs an agent's loop, as the diary of calls shows them, and
the scheduler when this loop is over.

* `Runs.turn_made`, `Runs.round_made` : in a turn, and in a round of turns, the loop goes on with
  its calls in their order;
* `Finished.round` : when the loop is over, a round leaves everything as it is.
-/
import MetricFeed.Proofs.Agent.Scheduler
import MetricFeed.Proofs.Reporting.Diary
import MetricFeed.Proofs.Reporting.PromptStop

namespace MetricFeed

variable {S H : Type}

namespace Scheduler

/-! ### Turns of the loop -/

section Turns

variable {sch : Scheduler S H} {t : Task S H} {rest : List (Task S H)} {id : Nat}
variable {setup : LoopSetup} {sur : Surroundings S H} {st st' : LoopState S}

/-- The loop that a scheduler runs is the only one. -/
theorem Runs.unique (h : sch.Runs id setup sur st) (h' : sch.Runs id setup sur st') : st = st' := by
  obtain ⟨since, hheld⟩ := h.held
  obtain ⟨since', hheld'⟩ := h'.held
  have htasks := hheld.tasks.symm.trans hheld'.tasks
  cases htasks
  rfl

/-- The turn of a task is a step of the loop, or leaves the loop where it was. -/
theorem Runs.turn (h : sch.Runs id setup sur st) (hqueue : sch.queue = t :: rest) :
    (sch.advance t rest).now = sch.now ∧
      ((sch.advance t rest).Runs id setup sur (st.step setup sur sch.now sch.state).1 ∧
          (sch.advance t rest).state = (st.step setup sur sch.now sch.state).2 ∨
        (sch.advance t rest).Runs id setup sur st ∧ (sch.advance t rest).state = sch.state) := by
  obtain ⟨since, ⟨hone, hidle⟩ | ⟨hnone, -⟩⟩ := h.held
  · obtain ⟨rfl, rfl⟩ := List.cons.inj (hqueue.symm.trans hone)
    by_cases hdue : st.isDue sur sch.now sch.state = true
    · obtain ⟨hruns, -, hnow, hstate⟩ := h.advance since hidle hdue
      exact ⟨hnow, .inl ⟨hruns, hstate⟩⟩
    · obtain ⟨hruns, -, hnow, hstate⟩ := h.rest since hidle (Bool.eq_false_iff.mpr hdue)
      exact ⟨hnow, .inr ⟨hruns, hstate⟩⟩
  · rw [hnone] at hqueue
    cases hqueue

variable {diary : S → List ClientCall} {made : List ClientCall}
variable (hdiary : sur.KeepsDiary diary) (hpanic : sur.NoPanic)

include hdiary hpanic

/-- In a turn, the loop goes on with its calls in their order. -/
theorem Runs.turn_made (h : sch.Runs id setup sur st) (hmade : st.Made setup made)
    (hqueue : sch.queue = t :: rest) :
    ∃ st' more, (sch.advance t rest).Runs id setup sur st' ∧
      sur.Enters diary more sch.state (sch.advance t rest).state ∧ st'.Made setup (made ++ more) ∧
      (sch.advance t rest).now = sch.now := by
  obtain ⟨s₀, history, hcourse⟩ := h.course
  obtain ⟨hnow, ⟨hruns, hstate⟩ | ⟨hruns, hstate⟩⟩ := h.turn hqueue
  · obtain ⟨more, henters, hmore⟩ := step_made hdiary hpanic hcourse.awaits hmade
    exact ⟨_, more, hruns, hstate ▸ henters, hmore, hnow⟩
  · exact ⟨st, [], hruns, hstate ▸ .refl sur diary _, (List.append_nil made).symm ▸ hmade, hnow⟩

theorem Runs.takeTurns_made (last fuel : Nat) (h : sch.Runs id setup sur st)
    (hmade : st.Made setup made) :
    ∃ st' more, (Scheduler.takeTurns last fuel sch).Runs id setup sur st' ∧
      sur.Enters diary more sch.state (Scheduler.takeTurns last fuel sch).state ∧
      st'.Made setup (made ++ more) := by
  have hdone : ∃ st' more, sch.Runs id setup sur st' ∧
      sur.Enters diary more sch.state sch.state ∧ st'.Made setup (made ++ more) :=
    ⟨st, [], h, .refl sur diary _, (List.append_nil made).symm ▸ hmade⟩
  induction fuel generalizing sch st made with
  | zero => exact hdone
  | succ fuel ih =>
    unfold Scheduler.takeTurns
    rcases hqueue : sch.queue with _ | ⟨t, rest⟩
    · exact hdone
    · dsimp only
      split
      · exact hdone
      · obtain ⟨st₁, more, hruns, henters, hmore, -⟩ := h.turn_made hdiary hpanic hmade hqueue
        obtain ⟨st₂, later, hruns', henters', hlater⟩ := ih hruns hmore
          ⟨st₁, [], hruns, .refl sur diary _, (List.append_nil _).symm ▸ hmore⟩
        exact ⟨st₂, more ++ later, hruns', henters.trans henters',
          List.append_assoc made _ _ ▸ hlater⟩

/-- **In a round of turns, the loop goes on with its calls in their order.** -/
theorem Runs.round_made (fuel : Nat) (h : sch.Runs id setup sur st) (hmade : st.Made setup made) :
    ∃ st' more, (sch.round fuel).Runs id setup sur st' ∧
      sur.Enters diary more sch.state (sch.round fuel).state ∧ st'.Made setup (made ++ more) :=
  h.takeTurns_made hdiary hpanic _ fuel hmade

end Turns

/-! ### Starts are no turns -/

theorem advance_nextId (sch : Scheduler S H) (t : Task S H) (rest : List (Task S H)) :
    (sch.advance t rest).nextId = sch.nextId := by
  unfold advance
  split <;> rfl

theorem takeTurns_nextId (last fuel : Nat) (sch : Scheduler S H) :
    (takeTurns last fuel sch).nextId = sch.nextId := by
  induction fuel generalizing sch with
  | zero => rfl
  | succ fuel ih =>
    unfold takeTurns
    split
    · rfl
    · split
      · rfl
      · exact (ih _).trans (advance_nextId sch _ _)

/-- No loop is started in a round of turns. -/
theorem round_nextId (sch : Scheduler S H) (fuel : Nat) : (sch.round fuel).nextId = sch.nextId :=
  takeTurns_nextId _ fuel sch

/-! ### When the loop is over -/

/-- There is no task, or the only one has ended. -/
def Finished (sch : Scheduler S H) : Prop :=
  sch.tasks = [] ∨ ∃ t, sch.Holds t ∧ t.loop.HasEnded

section Over

variable {sch : Scheduler S H} {t : Task S H} {rest : List (Task S H)}

theorem Finished.hasEnded (h : sch.Finished) : ∀ t ∈ sch.tasks, t.loop.HasEnded := by
  rcases h with hnil | ⟨t, hheld, hended⟩
  · rw [hnil]
    exact fun t ht => absurd ht List.not_mem_nil
  · rw [hheld.tasks]
    intro u hu
    rwa [List.mem_singleton.mp hu]

/-- A task that has ended cannot go on. -/
theorem isDue_of_hasEnded (h : t.loop.HasEnded) (now : Nat) (s : S) : t.isDue now s = false :=
  MetricFeed.isDue_of_hasEnded h

theorem Finished.callUp_of_eq {sch' : Scheduler S H} (h : sch.Finished)
    (hqueue : sch'.queue = sch.queue) (hidle : sch'.idle = sch.idle) : sch'.callUp.Finished := by
  rcases h with hnil | ⟨t, hheld, hended⟩
  · obtain ⟨hqueue', hidle'⟩ := List.append_eq_nil_iff.mp hnil
    obtain ⟨hqueue'', hidle''⟩ := callUp_of_nil sch' (hqueue.trans hqueue') (hidle.trans hidle')
    exact .inl (List.append_eq_nil_iff.mpr ⟨hqueue'', hidle''⟩)
  · exact .inr ⟨t, hheld.callUp_of_eq hqueue hidle, hended⟩

theorem Finished.setState (h : sch.Finished) (s : S) : (sch.setState s).Finished :=
  h.callUp_of_eq rfl rfl

theorem Finished.jump (h : sch.Finished) (wake : Nat) : (sch.jump wake).Finished :=
  h.callUp_of_eq rfl rfl

/-- Turns of a loop that is over change nothing. -/
theorem Finished.advance (h : sch.Finished) (hqueue : sch.queue = t :: rest) :
    (sch.advance t rest).Finished ∧ (sch.advance t rest).queue = [] ∧
      (sch.advance t rest).state = sch.state ∧ (sch.advance t rest).now = sch.now := by
  rcases h with hnil | ⟨u, ⟨hone, hidle⟩ | ⟨hnone, -⟩, hended⟩
  · rw [(List.append_eq_nil_iff.mp hnil).1] at hqueue
    cases hqueue
  · obtain ⟨rfl, rfl⟩ := List.cons.inj (hqueue.symm.trans hone)
    have hrest := isDue_of_hasEnded hended sch.now sch.state
    obtain ⟨since, hadvance⟩ := advance_of_not_isDue hrest hidle
    rw [hadvance]
    exact ⟨.inr ⟨{ t with since }, .inr ⟨rfl, rfl, hrest⟩, hended⟩, rfl, rfl, rfl⟩
  · rw [hnone] at hqueue
    cases hqueue

/-- **A round of turns changes nothing when the loop is over.** -/
theorem Finished.round (h : sch.Finished) {fuel : Nat} (hfuel : 0 < fuel) :
    (sch.round fuel).Finished ∧ (sch.round fuel).queue = [] ∧
      (sch.round fuel).state = sch.state ∧ (sch.round fuel).now = sch.now := by
  obtain ⟨fuel, rfl⟩ : ∃ k, fuel = k + 1 := ⟨fuel - 1, by omega⟩
  unfold Scheduler.round
  rcases hqueue : sch.queue with _ | ⟨t, rest⟩
  · rw [takeTurns_of_queue_nil _ _ hqueue]
    exact ⟨h, hqueue, rfl, rfl⟩
  · have hlast : ¬ sch.turns + turnsPerRound ≤ sch.turns := by
      unfold turnsPerRound
      omega
    have hadvance := h.advance hqueue
    rw [takeTurns, hqueue]
    dsimp only
    rw [if_neg hlast, takeTurns_of_queue_nil _ fuel hadvance.2.1]
    exact hadvance

/-- The loop has a result exactly if it is over. -/
theorem Runs.isSome_result? {id : Nat} {setup : LoopSetup} {sur : Surroundings S H}
    {st : LoopState S} (h : sch.Runs id setup sur st) : (sch.result? id).isSome ↔ st.HasEnded := by
  obtain ⟨since, hheld⟩ := h.held
  rw [show sch.result? id = Task.result? ⟨id, setup, sur, st, since⟩ from hheld.result?]
  unfold Task.result? LoopState.HasEnded
  dsimp only
  rcases st.phase with _ | _ | _ | _ | _ | _ | _ <;> simp

/-- Aborting a task leaves others that are over. -/
theorem Finished.abort (h : sch.Finished) (id : Nat) : (sch.abort id).Finished := by
  rcases h with hnil | ⟨t, hheld, hended⟩
  · obtain ⟨hqueue, hidle⟩ := List.append_eq_nil_iff.mp hnil
    refine .inl ?_
    unfold Scheduler.abort tasks
    rw [hqueue, hidle]
    rfl
  · by_cases hid : t.id = id
    · subst hid
      exact .inl (List.append_eq_nil_iff.mpr hheld.abort)
    · refine .inr ⟨t, ?_, hended⟩
      unfold Scheduler.abort Holds
      rcases hheld with ⟨hqueue, hidle⟩ | ⟨hqueue, hidle, hrest⟩ <;> rw [hqueue, hidle]
      · exact .inl ⟨by simp [hid], rfl⟩
      · exact .inr ⟨rfl, by simp [hid], hrest⟩

/-- No loop goes on but that of the task `id`, if this one does. -/
def RunsOnly (sch : Scheduler S H) (id : Nat) (sur : Surroundings S H) : Prop :=
  sch.Finished ∨ ∃ setup st, sch.Runs id setup sur st

section Only

variable {id : Nat} {sur : Surroundings S H}

theorem RunsOnly.setState (h : sch.RunsOnly id sur) (s : S) : (sch.setState s).RunsOnly id sur :=
  h.imp (·.setState s) fun ⟨setup, st, hruns⟩ => ⟨setup, st, hruns.setState s⟩

/-- When the only loop has a result, none goes on. -/
theorem RunsOnly.finished (h : sch.RunsOnly id sur) (hresult : (sch.result? id).isSome) :
    sch.Finished := by
  rcases h with hfinished | ⟨setup, st, hruns⟩
  · exact hfinished
  · obtain ⟨since, hheld⟩ := hruns.held
    exact .inr ⟨_, hheld, hruns.isSome_result?.mp hresult⟩

/-- When the only loop is aborted, none goes on. -/
theorem RunsOnly.abort (h : sch.RunsOnly id sur) : (sch.abort id).Finished := by
  rcases h with hfinished | ⟨setup, st, hruns⟩
  · exact hfinished.abort id
  · obtain ⟨since, hheld⟩ := hruns.held
    exact .inl (List.append_eq_nil_iff.mpr hheld.abort)

end Only

/-- A loop that is over has no timer. -/
theorem Finished.wake? (h : sch.Finished) (hqueue : sch.queue = []) : sch.wake? = none := by
  unfold Scheduler.wake?
  rcases h with hnil | ⟨t, ⟨hone, -⟩ | ⟨-, hidle, -⟩, hended⟩
  · rw [(List.append_eq_nil_iff.mp hnil).2]
    rfl
  · rw [hqueue] at hone
    cases hone
  · rw [hidle]
    show Call.earlier none t.loop.wake? = none
    unfold LoopState.wake?
    rcases hasEnded_iff.mp hended with hphase | ⟨message, hphase⟩ <;> rw [hphase] <;> rfl

end Over

end Scheduler

end MetricFeed
