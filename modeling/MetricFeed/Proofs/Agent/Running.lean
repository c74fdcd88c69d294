/-
MetricFeed/Proofs/Agent/Running.lean

An agent that has been started, at any point of its run.  Since its start the host and the clients
have changed the state of the surroundings in any way, the loop has taken any number of turns or
parts of turns, and any time has passed.

Main result (`Running.runs`): the agent's loop is the scheduler's one task, and on a course.
-/
import MetricFeed.Agent.Closing
import MetricFeed.Proofs.Agent.Scheduler

namespace MetricFeed

variable {S H : Type}

namespace AgentSystem

/-- An agent whose loop has been started in a scheduler without other tasks, and that has not been
closed. -/
inductive Running : AgentSystem S H → Prop
  | init {agent : Agent S H} {sch : Scheduler S H} (handles : List H) : agent.runner? = none →
    agent.surroundings.cancelled sch.state = false → sch.tasks = [] →
    Running ⟨(agent.init handles sch).1, (agent.init handles sch).2⟩
  /-- Something is done to the state of the surroundings. -/
  | change {sys : AgentSystem S H} (f : S → S) : Running sys →
    Running { sys with scheduler := sys.scheduler.modify f }
  /-- A task takes a step of its turn, or ends its turn. -/
  | turn {sys : AgentSystem S H} {t : Task S H} {rest : List (Task S H)} : Running sys →
    sys.scheduler.queue = t :: rest →
    Running { sys with scheduler := sys.scheduler.advance t rest }
  | pass {sys : AgentSystem S H} (wake : Nat) : Running sys →
    Running { sys with scheduler := sys.scheduler.jump wake }

/-- The agent waits for the task with the number `id`, and this runs the agent's loop. -/
structure RunsLoop (sys : AgentSystem S H) (id : Nat) (setup : LoopSetup) (st : LoopState S) :
    Prop where
  runner : sys.agent.runner? = some id
  /-- The provisioning of the topic belongs to the loop. -/
  spare : sys.agent.spareTopic? = none
  clock : setup.clock = sys.agent.clock
  runs : sys.scheduler.Runs id setup sys.agent.surroundings st

theorem tasks_modify {sch : Scheduler S H} (h : sch.tasks = []) (f : S → S) :
    (sch.modify f).tasks = [] := by
  obtain ⟨hqueue, hidle⟩ := List.append_eq_nil_iff.mp h
  have hnil := Scheduler.callUp_of_nil { sch with state := f sch.state } hqueue hidle
  exact List.append_eq_nil_iff.mpr hnil

/-- Starting an agent gives its loop to the scheduler. -/
theorem runsLoop_init {agent : Agent S H} {sch : Scheduler S H} (handles : List H)
    (hrunner : agent.runner? = none) (hgo : agent.surroundings.cancelled sch.state = false)
    (hempty : sch.tasks = []) :
    ∃ id setup st,
      RunsLoop ⟨(agent.init handles sch).1, (agent.init handles sch).2⟩ id setup st := by
  have hfree : ¬ (agent.isRunning || agent.surroundings.cancelled sch.state) = true := by
    simp [Agent.isRunning, hrunner, hgo]
  unfold Agent.init
  rw [if_neg hfree]
  exact ⟨_, _, _, rfl, rfl, rfl,
    Scheduler.runs_spawn (tasks_modify (tasks_modify hempty _) _) agent.loopSetup
      agent.surroundings⟩

/-- **The loop of a running agent is on a course**, as the only task of its scheduler. -/
theorem Running.runs {sys : AgentSystem S H} (h : sys.Running) :
    ∃ id setup st, sys.RunsLoop id setup st := by
  induction h with
  | init handles hrunner hgo hempty => exact runsLoop_init handles hrunner hgo hempty
  | change f _ ih =>
    obtain ⟨id, setup, st, hrunner, hspare, hclock, hruns⟩ := ih
    exact ⟨id, setup, st, hrunner, hspare, hclock, hruns.setState _⟩
  | @turn sys t rest _ hqueue ih =>
    obtain ⟨id, setup, st, hrunner, hspare, hclock, hruns⟩ := ih
    obtain ⟨since, ⟨hone, hidle⟩ | ⟨hnone, -⟩⟩ := hruns.held
    · obtain ⟨rfl, rfl⟩ := List.cons.inj (hqueue.symm.trans hone)
      by_cases hdue : st.isDue sys.agent.surroundings sys.scheduler.now sys.scheduler.state = true
      · exact ⟨id, setup, _, hrunner, hspare, hclock, (hruns.advance since hidle hdue).1⟩
      · exact ⟨id, setup, st, hrunner, hspare, hclock,
          (hruns.rest since hidle (Bool.eq_false_iff.mpr hdue)).1⟩
    · rw [hnone] at hqueue
      cases hqueue
  | pass wake _ ih =>
    obtain ⟨id, setup, st, hrunner, hspare, hclock, hruns⟩ := ih
    exact ⟨id, setup, st, hrunner, hspare, hclock, hruns.jump wake⟩

end AgentSystem

end MetricFeed
