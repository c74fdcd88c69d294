/-
MetricFeed/Proofs/Agent/Lifecycle.lean

The life of an agent, from its configuration on.  Its host starts it, tells it of metrics that come
and go, and closes it, one after the other, in any order and any number of times; in between, time
passes and the loop takes its turns (`Hosted`).

The agent is fresh until its loop is started, and busy until it is closed; then it is over for good.
Fresh, busy and retired agents are told apart by what the diary of calls holds.

Main result (`Hosted.lifecycle`): at most one loop is ever started, the clients are released exactly
once and in order, every closing comes to its end in time, and the first one is the end of all
calls.
-/
import MetricFeed.Proofs.Agent.Departure

namespace MetricFeed

variable {S H : Type}

namespace AgentSystem

/-! ### Runs -/

/-- An agent that has just been configured, in a scheduler of its own.  It is so at a whole
millisecond, the granularity of the scheduler's timers, so that runs go on at whole milliseconds
only. -/
structure Configured (sys : AgentSystem S H) : Prop where
  runner : sys.agent.runner? = none
  tasks : sys.scheduler.tasks = []
  cancelled : sys.agent.surroundings.cancelled sys.scheduler.state = false
  isOpen : sys.agent.surroundings.channel.isClosed sys.scheduler.state = false
  now : nanosPerMilli ∣ sys.scheduler.now

/-- Starting the agent does not end in a panic for want of time: it is ignored, or the agent's clock
has not run out. -/
def CanInit (sys : AgentSystem S H) : Prop :=
  sys.agent.isRunning || sys.agent.surroundings.cancelled sys.scheduler.state ||
    (sys.agent.clock.nowMs? sys.scheduler.now).isSome

/-- What the host and others have done to an agent since it was `sys₀`, and what its closings have
yielded. -/
inductive Hosted (diary : S → List ClientCall) (sys₀ : AgentSystem S H) :
    List (Option LoopStats) → AgentSystem S H → Prop
  | configured : Hosted diary sys₀ [] sys₀
  | init {closings : List (Option LoopStats)} {sys : AgentSystem S H} (handles : List H) :
    Hosted diary sys₀ closings sys → sys.CanInit →
    Hosted diary sys₀ closings
      ⟨(sys.agent.init handles sys.scheduler).1, (sys.agent.init handles sys.scheduler).2⟩
  | offer {closings : List (Option LoopStats)} {sys : AgentSystem S H} (handle : H) :
    Hosted diary sys₀ closings sys →
    Hosted diary sys₀ closings
      { sys with scheduler := sys.scheduler.modify (sys.agent.offer handle) }
  | withdraw {closings : List (Option LoopStats)} {sys : AgentSystem S H} (metric : MetricId) :
    Hosted diary sys₀ closings sys →
    Hosted diary sys₀ closings
      { sys with scheduler := sys.scheduler.modify (sys.agent.withdraw metric) }
  | close {closings : List (Option LoopStats)} {sys sys' : AgentSystem S H} {fuel : Nat}
    {stats : Option LoopStats} : Hosted diary sys₀ closings sys → 16 ≤ fuel →
    Closing.close fuel sys = (some (.value stats), sys') →
    Hosted diary sys₀ (closings ++ [stats]) sys'
  /-- A task takes a step of its turn, or ends its turn. -/
  | turn {closings : List (Option LoopStats)} {sys : AgentSystem S H} {t : Task S H}
    {rest : List (Task S H)} : Hosted diary sys₀ closings sys → sys.scheduler.queue = t :: rest →
    Hosted diary sys₀ closings { sys with scheduler := sys.scheduler.advance t rest }
  /-- Time goes on to a later millisecond, and to none of the instants between two: timers go off at
  the end of the millisecond that their deadline lies in (`roundUpToMilli`), so there is nothing to
  be seen there. -/
  | pass {closings : List (Option LoopStats)} {sys : AgentSystem S H} (ms : Nat) :
    Hosted diary sys₀ closings sys →
    Hosted diary sys₀ closings
      { sys with scheduler := sys.scheduler.jump (ms * nanosPerMilli) }
  /-- Something is done to the surroundings that is no call of a client. -/
  | other {closings : List (Option LoopStats)} {sys : AgentSystem S H} {s : S} :
    Hosted diary sys₀ closings sys →
    sys.agent.surroundings.Enters diary [] sys.scheduler.state s →
    Hosted diary sys₀ closings { sys with scheduler := sys.scheduler.setState s }

/-! ### Stages of life -/

/-- What the agent's clients and surroundings are relied on for, and that time is counted in whole
milliseconds. -/
structure Reliable (diary : S → List ClientCall) (sys : AgentSystem S H) : Prop where
  keeps : sys.agent.KeepsDiary diary
  noPanic : sys.agent.surroundings.NoPanic
  now : nanosPerMilli ∣ sys.scheduler.now

/-- No loop has been started, and the agent has not been closed. -/
structure Fresh (diary : S → List ClientCall) (before : List ClientCall)
    (topic? : Option TopicSpec) (loops : Nat) (sys : AgentSystem S H) : Prop
    extends sys.Reliable diary where
  configured : sys.Configured
  spare : sys.agent.spareTopic? = topic?
  unused : diary sys.scheduler.state = before
  loops : sys.scheduler.nextId = loops

/-- The loop has been started, and the agent has not been closed. -/
structure Busy (diary : S → List ClientCall) (before : List ClientCall)
    (topic? : Option TopicSpec) (loops : Nat) (sys : AgentSystem S H) : Prop
    extends sys.Reliable diary where
  cancelled : sys.agent.surroundings.cancelled sys.scheduler.state = false
  isOpen : sys.agent.surroundings.channel.isClosed sys.scheduler.state = false
  loop : ∃ id setup st made, sys.RunsLoop id setup st ∧ setup.topic? = topic? ∧
    st.Made setup made ∧ diary sys.scheduler.state = before ++ made
  loops : sys.scheduler.nextId = loops + 1

/-- The agent has been closed. -/
structure Retired (diary : S → List ClientCall) (before : List ClientCall)
    (topic? : Option TopicSpec) (loops : Nat) (sys : AgentSystem S H) : Prop
    extends sys.Reliable diary where
  runner : sys.agent.runner? = none
  spare : sys.agent.spareTopic? = none
  shut : Closing.Shut sys.agent diary before topic? sys.scheduler
  loops : sys.scheduler.nextId ≤ loops + 1

section Stages

variable {diary : S → List ClientCall} {before : List ClientCall} {topic? : Option TopicSpec}
variable {loops : Nat} {sys : AgentSystem S H}

/-! #### What is no call -/

section Quiet

variable {s : S}

theorem Fresh.setState (h : sys.Fresh diary before topic? loops)
    (henters : sys.agent.surroundings.Enters diary [] sys.scheduler.state s) :
    Fresh diary before topic? loops { sys with scheduler := sys.scheduler.setState s } where
  toReliable := ⟨h.keeps, h.noPanic, h.now⟩
  configured :=
    { runner := h.configured.runner
      tasks := tasks_modify h.configured.tasks fun _ => s
      cancelled := henters.cancelled.trans h.configured.cancelled
      isOpen := henters.isClosed.trans h.configured.isOpen
      now := h.now }
  spare := h.spare
  unused := henters.diary.trans ((List.append_nil _).trans h.unused)
  loops := h.loops

theorem Busy.setState (h : sys.Busy diary before topic? loops)
    (henters : sys.agent.surroundings.Enters diary [] sys.scheduler.state s) :
    Busy diary before topic? loops { sys with scheduler := sys.scheduler.setState s } := by
  obtain ⟨id, setup, st, made, hloop, htopic, hmade, hbefore⟩ := h.loop
  exact
    { toReliable := ⟨h.keeps, h.noPanic, h.now⟩
      cancelled := henters.cancelled.trans h.cancelled
      isOpen := henters.isClosed.trans h.isOpen
      loop := ⟨id, setup, st, made, ⟨hloop.runner, hloop.spare, hloop.clock, hloop.runs.setState s⟩,
        htopic, hmade, henters.diary.trans ((List.append_nil _).trans hbefore)⟩
      loops := h.loops }

theorem Retired.setState (h : sys.Retired diary before topic? loops)
    (henters : sys.agent.surroundings.Enters diary [] sys.scheduler.state s) :
    Retired diary before topic? loops { sys with scheduler := sys.scheduler.setState s } where
  toReliable := ⟨h.keeps, h.noPanic, h.now⟩
  runner := h.runner
  spare := h.spare
  shut := h.shut.setState henters
  loops := h.loops

end Quiet

/-! #### Metrics that come and go -/

theorem offer_enters (hdiary : sys.agent.KeepsDiary diary) (handle : H) (s : S) :
    sys.agent.surroundings.Enters diary [] s (sys.agent.offer handle s) :=
  (hdiary.notes _ s).after (hdiary.setIntake _ _)

theorem withdraw_enters (hdiary : sys.agent.KeepsDiary diary) (metric : MetricId) (s : S) :
    sys.agent.surroundings.Enters diary [] s (sys.agent.withdraw metric s) :=
  hdiary.setIntake _ s

theorem offers_enters (hdiary : sys.agent.KeepsDiary diary) (handles : List H) (s : S) :
    sys.agent.surroundings.Enters diary [] s
      (handles.foldl (fun s handle => sys.agent.offer handle s) s) := by
  induction handles generalizing s with
  | nil => exact .refl _ _ s
  | cons handle rest ih => exact (offer_enters hdiary handle s).after (ih _)

/-! #### Starting the loop -/

theorem initial_made {setup : LoopSetup} {now : Nat} (h : (setup.clock.nowMs? now).isSome) :
    (setup.initial S now).Made setup [] := by
  obtain ⟨nowMs, hnowMs⟩ := Option.isSome_iff_exists.mp h
  unfold LoopSetup.initial
  rw [hnowMs]
  rfl

/-- A fresh agent may be started. -/
theorem Fresh.not_ignored (h : sys.Fresh diary before topic? loops) :
    (sys.agent.isRunning || sys.agent.surroundings.cancelled sys.scheduler.state) = false := by
  unfold Agent.isRunning
  rw [h.configured.runner, h.configured.cancelled]
  rfl

/-- Starting a fresh agent starts its loop. -/
theorem Fresh.init (h : sys.Fresh diary before topic? loops) (hcan : sys.CanInit)
    (handles : List H) :
    Busy diary before topic? loops
      ⟨(sys.agent.init handles sys.scheduler).1, (sys.agent.init handles sys.scheduler).2⟩ := by
  have hclock : (sys.agent.loopSetup.clock.nowMs? sys.scheduler.now).isSome := by
    unfold CanInit at hcan
    rw [h.not_ignored] at hcan
    exact hcan
  -- the metrics are registered, and this is said in the log
  let registered := sys.scheduler.modify fun s =>
    handles.foldl (fun s handle => sys.agent.offer handle s) s
  let ready := registered.modify fun s =>
    sys.agent.surroundings.note (.initialMetrics (sys.agent.registeredCount s)) s
  have henters : sys.agent.surroundings.Enters diary [] sys.scheduler.state ready.state :=
    (offers_enters h.keeps handles _).after (h.keeps.note _ _)
  have hready : ready.tasks = [] := tasks_modify (tasks_modify h.configured.tasks _) _
  have hruns := Scheduler.runs_spawn hready sys.agent.loopSetup sys.agent.surroundings
  have hinit : sys.agent.init handles sys.scheduler =
      ({ sys.agent with
          runner? := some (ready.spawn sys.agent.loopSetup sys.agent.surroundings).1
          spareTopic? := none },
        (ready.spawn sys.agent.loopSetup sys.agent.surroundings).2) := by
    unfold Agent.init
    exact if_neg (Bool.eq_false_iff.mp h.not_ignored)
  rw [hinit]
  exact
    { toReliable := ⟨h.keeps.handOver _ _, h.noPanic, h.now⟩
      cancelled := henters.cancelled.trans h.configured.cancelled
      isOpen := henters.isClosed.trans h.configured.isOpen
      loop := ⟨_, _, _, [], ⟨rfl, rfl, rfl, hruns⟩, h.spare, initial_made hclock,
        henters.diary.trans (by rw [h.unused])⟩
      loops := congrArg (· + 1) h.loops }

/-- Otherwise nothing is started, and nothing is registered. -/
theorem init_of_ignored (hdiary : sys.agent.KeepsDiary diary)
    (hignored :
      (sys.agent.isRunning || sys.agent.surroundings.cancelled sys.scheduler.state) = true)
    (handles : List H) :
    ∃ s, sys.agent.init handles sys.scheduler = (sys.agent, sys.scheduler.setState s) ∧
      sys.agent.surroundings.Enters diary [] sys.scheduler.state s ∧
      sys.agent.intake s = sys.agent.intake sys.scheduler.state := by
  refine ⟨sys.agent.surroundings.note .alreadyStarted sys.scheduler.state, ?_, hdiary.note _ _,
    hdiary.intake _ _⟩
  unfold Agent.init
  rw [if_pos hignored]
  rfl

theorem Busy.isRunning (h : sys.Busy diary before topic? loops) : sys.agent.isRunning = true := by
  obtain ⟨id, setup, st, made, hloop, -⟩ := h.loop
  unfold Agent.isRunning
  rw [hloop.runner]
  rfl

/-! #### Turns and time -/

theorem Reliable.jump (h : sys.Reliable diary) {wake : Nat} (hwake : nanosPerMilli ∣ wake) :
    Reliable diary { sys with scheduler := sys.scheduler.jump wake } where
  keeps := h.keeps
  noPanic := h.noPanic
  now := (sys.scheduler.jump_now wake).symm ▸ dvd_jumpTo h.now hwake

theorem Fresh.jump (h : sys.Fresh diary before topic? loops) {wake : Nat}
    (hwake : nanosPerMilli ∣ wake) :
    Fresh diary before topic? loops { sys with scheduler := sys.scheduler.jump wake } := by
  have hstate := (sys.scheduler.jump_state wake).symm
  obtain ⟨hqueue, hidle⟩ := List.append_eq_nil_iff.mp h.configured.tasks
  exact
    { toReliable := h.toReliable.jump hwake
      configured :=
        { runner := h.configured.runner
          tasks := List.append_eq_nil_iff.mpr (Scheduler.callUp_of_nil _ hqueue hidle)
          cancelled := hstate ▸ h.configured.cancelled
          isOpen := hstate ▸ h.configured.isOpen
          now := (h.toReliable.jump hwake).now }
      spare := h.spare
      unused := hstate ▸ h.unused
      loops := (sys.scheduler.jump_nextId wake).trans h.loops }

theorem Busy.jump (h : sys.Busy diary before topic? loops) {wake : Nat}
    (hwake : nanosPerMilli ∣ wake) :
    Busy diary before topic? loops { sys with scheduler := sys.scheduler.jump wake } := by
  have hstate := (sys.scheduler.jump_state wake).symm
  obtain ⟨id, setup, st, made, hloop, htopic, hmade, hbefore⟩ := h.loop
  exact
    { toReliable := h.toReliable.jump hwake
      cancelled := hstate ▸ h.cancelled
      isOpen := hstate ▸ h.isOpen
      loop := ⟨id, setup, st, made,
        ⟨hloop.runner, hloop.spare, hloop.clock, hloop.runs.jump wake⟩, htopic, hmade,
        hstate ▸ hbefore⟩
      loops := (sys.scheduler.jump_nextId wake).trans h.loops }

theorem Retired.jump (h : sys.Retired diary before topic? loops) {wake : Nat}
    (hwake : nanosPerMilli ∣ wake) :
    Retired diary before topic? loops { sys with scheduler := sys.scheduler.jump wake } := by
  have hstate := (sys.scheduler.jump_state wake).symm
  exact
    { toReliable := h.toReliable.jump hwake
      runner := h.runner
      spare := h.spare
      shut := ⟨h.shut.finished.jump wake, hstate ▸ h.shut.cancelled, hstate ▸ h.shut.isClosed,
        hstate ▸ h.shut.made⟩
      loops := (sys.scheduler.jump_nextId wake).symm ▸ h.loops }

section Turn

variable {t : Task S H} {rest : List (Task S H)}

theorem Fresh.queue (h : sys.Fresh diary before topic? loops) : sys.scheduler.queue = [] :=
  (List.append_eq_nil_iff.mp h.configured.tasks).1

/-- In its turn the loop goes on with its calls in their order. -/
theorem Busy.turn (h : sys.Busy diary before topic? loops)
    (hqueue : sys.scheduler.queue = t :: rest) :
    Busy diary before topic? loops { sys with scheduler := sys.scheduler.advance t rest } := by
  obtain ⟨id, setup, st, made, hloop, htopic, hmade, hbefore⟩ := h.loop
  obtain ⟨st', more, hruns, henters, hmore, hnow⟩ :=
    hloop.runs.turn_made h.keeps.toKeepsDiary h.noPanic hmade hqueue
  exact
    { toReliable := ⟨h.keeps, h.noPanic, hnow ▸ h.now⟩
      cancelled := henters.cancelled.trans h.cancelled
      isOpen := henters.isClosed.trans h.isOpen
      loop := ⟨id, setup, st', made ++ more, ⟨hloop.runner, hloop.spare, hloop.clock, hruns⟩,
        htopic, hmore, by rw [henters.diary, hbefore, List.append_assoc]⟩
      loops := (Scheduler.advance_nextId _ t rest).trans h.loops }

/-- When the agent has been closed, nothing happens in turns. -/
theorem Retired.turn (h : sys.Retired diary before topic? loops)
    (hqueue : sys.scheduler.queue = t :: rest) :
    Retired diary before topic? loops { sys with scheduler := sys.scheduler.advance t rest } := by
  obtain ⟨hfinished, -, hstate, hnow⟩ := h.shut.finished.advance hqueue
  exact
    { toReliable := ⟨h.keeps, h.noPanic, hnow ▸ h.now⟩
      runner := h.runner
      spare := h.spare
      shut := ⟨hfinished, hstate ▸ h.shut.cancelled, hstate ▸ h.shut.isClosed,
        hstate ▸ h.shut.made⟩
      loops := (Scheduler.advance_nextId _ t rest).symm ▸ h.loops }

end Turn

/-! #### Closing -/

/-- The agent says that it is being closed, and asks its loop to stop. -/
theorem told_state (hdiary : sys.agent.KeepsDiary diary) (s : S) :
    diary (sys.agent.cancel (sys.agent.surroundings.note .closingAgent s)) = diary s ∧
      sys.agent.surroundings.channel.isClosed
          (sys.agent.cancel (sys.agent.surroundings.note .closingAgent s)) =
        sys.agent.surroundings.channel.isClosed s ∧
      sys.agent.surroundings.cancelled
        (sys.agent.cancel (sys.agent.surroundings.note .closingAgent s)) = true := by
  have hnote := hdiary.note .closingAgent s
  obtain ⟨hcalls, hclosed, hcancelled⟩ :=
    hdiary.cancel (sys.agent.surroundings.note .closingAgent s)
  exact ⟨hcalls.trans (hnote.diary.trans (List.append_nil _)), hclosed.trans hnote.isClosed,
    hcancelled⟩

/-- Without a loop that could be waited for, the closing begins with the administrative client. -/
theorem start_of_none (h : sys.agent.runner? = none) :
    Closing.start sys = Closing.toRelease none
      { sys with
        scheduler := sys.scheduler.modify fun s =>
          sys.agent.cancel (sys.agent.surroundings.note .closingAgent s) } := by
  unfold Closing.start
  dsimp only
  rw [h]

theorem Fresh.close_comesToChannel (h : sys.Fresh diary before topic? loops) {fuel : Nat}
    (hfuel : 16 ≤ fuel) :
    Closing.ComesToChannel { sys.agent with spareTopic? := none } diary before topic?
      (sys.scheduler.now + Provisioning.closeTimeout.nanos) (Closing.close fuel sys) := by
  obtain ⟨hcalls, hclosed, hcancelled⟩ := told_state h.keeps sys.scheduler.state
  let told := sys.scheduler.modify fun s =>
    sys.agent.cancel (sys.agent.surroundings.note .closingAgent s)
  have hnil : told.tasks = [] := tasks_modify h.configured.tasks _
  have hcomes : Closing.ComesToChannel { sys.agent with spareTopic? := none } diary
      (diary told.state) sys.agent.spareTopic? (told.now + Provisioning.closeTimeout.nanos)
      (Closing.goOn fuel (Closing.toRelease none ⟨sys.agent, told⟩)) :=
    Closing.toRelease_comesToChannel h.keeps h.noPanic (.inl hnil) hcancelled
      (hclosed.trans h.configured.isOpen) h.now (by omega)
  have hbefore : diary told.state = before := hcalls.trans h.unused
  rw [hbefore, h.spare] at hcomes
  unfold Closing.close
  rw [start_of_none h.configured.runner]
  exact hcomes

theorem Busy.close_comesToChannel (h : sys.Busy diary before topic? loops) {fuel : Nat}
    (hfuel : 16 ≤ fuel) :
    Closing.ComesToChannel { sys.agent with runner? := none } diary before topic?
      (sys.scheduler.now + joinTimeout.nanos) (Closing.close fuel sys) := by
  obtain ⟨id, setup, st, made, hloop, rfl, hmade, hbefore⟩ := h.loop
  obtain ⟨hcalls, hclosed, hcancelled⟩ := told_state h.keeps sys.scheduler.state
  have hwinding : Closing.Winding sys.told.agent diary before id setup st sys.told.scheduler :=
    ⟨hloop.runs.setState _, hcancelled, hclosed.trans h.isOpen, made, hmade, hcalls.trans hbefore⟩
  have hdiary : sys.told.agent.KeepsDiary diary := h.keeps.handOver sys.agent.spareTopic? none
  have hcomes := hwinding.comesToChannel hdiary h.noPanic hloop.spare h.now hfuel
  have htimer : timerAt sys.scheduler.now joinTimeout = sys.scheduler.now + joinTimeout.nanos :=
    timerAt_of_dvd h.now (by decide)
  rw [← htimer]
  unfold Closing.close
  rw [start_eq hloop.runner]
  exact hcomes

/-- How long a closing may take: the loop or the administrative client has its time limit, and the
producer. -/
def closeLimit : Duration := .ofSeconds 15

theorem closeLimit_eq :
    closeLimit.nanos = joinTimeout.nanos + Channel.closeTimeout.nanos := rfl

/-- The closing `outcome` of the agent ends in time with the given statistics and leaves a retired
agent.  Its last call is the closing of the producer, and this is made when the loop is over and all
other calls have been made. -/
structure Retires (diary : S → List ClientCall) (before : List ClientCall)
    (topic? : Option TopicSpec) (loops : Nat) (sys : AgentSystem S H)
    (outcome : Option (Reply (Option LoopStats)) × AgentSystem S H) (stats : Option LoopStats)
    (sys' : AgentSystem S H) : Prop where
  ends : outcome = (some (.value stats), sys')
  retired : sys'.Retired diary before topic? loops
  inTime : sys'.scheduler.now ≤ sys.scheduler.now + closeLimit.nanos
  last : ∃ k a sch, outcome = Closing.goOn k (Closing.toChannel stats ⟨a, sch⟩) ∧
    Closing.Ready a diary before topic? sch ∧
    diary sys'.scheduler.state = diary sch.state ++ [.close]

theorem retires_of_comesToChannel {a : Agent S H} {fuel : Nat}
    (h : Closing.ComesToChannel a diary before topic? (sys.scheduler.now + joinTimeout.nanos)
      (Closing.close fuel sys))
    (hdiary : a.KeepsDiary diary) (hpanic : a.surroundings.NoPanic) (hrunner : a.runner? = none)
    (hspare : a.spareTopic? = none) (hloops : sys.scheduler.nextId ≤ loops + 1) :
    ∃ stats sys', Retires diary before topic? loops sys (Closing.close fuel sys) stats sys' := by
  obtain ⟨stats, sch', hends, hshut, hnow, hle, k, sch, hon, hready, hlast⟩ :=
    h.ends hdiary hpanic
  have hstarted := Closing.close_nextId fuel sys
  rw [hends] at hstarted
  rw [Nat.add_assoc, ← closeLimit_eq] at hle
  exact ⟨stats, ⟨a, sch'⟩, hends,
    { toReliable := ⟨hdiary, hpanic, hnow⟩
      runner := hrunner
      spare := hspare
      shut := hshut
      loops := Nat.le_trans (Nat.le_of_eq hstarted) hloops }, hle, k, a, sch, hon, hready, hlast⟩

/-- The first closing of an agent. -/
theorem first_close (h : sys.Fresh diary before topic? loops ∨ sys.Busy diary before topic? loops)
    {fuel : Nat} (hfuel : 16 ≤ fuel) :
    ∃ stats sys', Retires diary before topic? loops sys (Closing.close fuel sys) stats sys' := by
  rcases h with h | h
  · exact retires_of_comesToChannel (h.close_comesToChannel hfuel)
      (h.keeps.handOver none sys.agent.runner?) h.noPanic h.configured.runner rfl
      (Nat.le_succ_of_le (Nat.le_of_eq h.loops))
  · obtain ⟨id, setup, st, made, hloop, -⟩ := h.loop
    exact retires_of_comesToChannel (h.close_comesToChannel hfuel)
      (h.keeps.handOver sys.agent.spareTopic? none) h.noPanic rfl hloop.spare
      (Nat.le_of_eq h.loops)

/-- Closing an agent again does nothing but say so, and takes no time. -/
theorem Retired.close (h : sys.Retired diary before topic? loops) (fuel : Nat) :
    ∃ sys', Closing.close fuel sys = (some (.value none), sys') ∧
      sys'.Retired diary before topic? loops ∧ sys'.scheduler.now = sys.scheduler.now ∧
      diary sys'.scheduler.state = diary sys.scheduler.state := by
  obtain ⟨hcalls, hclosed, hcancelled⟩ := told_state h.keeps sys.scheduler.state
  let told := sys.scheduler.modify fun s =>
    sys.agent.cancel (sys.agent.surroundings.note .closingAgent s)
  have hshut : Closing.Shut sys.agent diary before topic? told := by
    obtain ⟨made, hmade, hbefore⟩ := h.shut.made
    exact ⟨h.shut.finished.setState _, hcancelled, hclosed.trans h.shut.isClosed, made, hmade,
      hcalls.trans hbefore⟩
  have hchannel : Closing.toChannel none ⟨sys.agent, told⟩ =
      (.inr (.value none), ⟨sys.agent, told.setState told.state⟩) :=
    Closing.toChannel_of_closed hshut.isClosed none
  have hclose : Closing.close fuel sys =
      (some (.value none), ⟨sys.agent, told.setState told.state⟩) := by
    have hspare : (⟨sys.agent, told⟩ : AgentSystem S H).agent.spareTopic? = none := h.spare
    unfold Closing.close
    rw [start_of_none h.runner, Closing.toRelease_of_none hspare, hchannel]
    rfl
  exact ⟨_, hclose,
    { toReliable := ⟨h.keeps, h.noPanic, h.now⟩
      runner := h.runner
      spare := h.spare
      shut := hshut.setState (.refl _ _ _)
      loops := h.loops }, rfl, hcalls⟩

end Stages

/-! ### Whole lives -/

/-- The stage of life of an agent whose closings have yielded the given statistics. -/
def Lives (diary : S → List ClientCall) (before : List ClientCall) (topic? : Option TopicSpec)
    (loops : Nat) (closings : List (Option LoopStats)) (sys : AgentSystem S H) : Prop :=
  closings = [] ∧ (sys.Fresh diary before topic? loops ∨ sys.Busy diary before topic? loops) ∨
    (∃ first later, closings = first :: later ∧ ∀ stats ∈ later, stats = none) ∧
      sys.Retired diary before topic? loops

section Lives

variable {diary : S → List ClientCall} {before : List ClientCall} {topic? : Option TopicSpec}
variable {loops : Nat} {closings : List (Option LoopStats)} {sys sys₀ : AgentSystem S H}

theorem Configured.fresh (h : sys.Configured) (hdiary : sys.agent.KeepsDiary diary)
    (hpanic : sys.agent.surroundings.NoPanic) :
    sys.Fresh diary (diary sys.scheduler.state) sys.agent.spareTopic? sys.scheduler.nextId where
  toReliable := ⟨hdiary, hpanic, h.now⟩
  configured := h
  spare := rfl
  unused := rfl
  loops := rfl

theorem Lives.keeps (h : Lives diary before topic? loops closings sys) :
    sys.agent.KeepsDiary diary := by
  rcases h with ⟨-, h | h⟩ | ⟨-, h⟩
  · exact h.keeps
  · exact h.keeps
  · exact h.keeps

theorem Lives.setState (h : Lives diary before topic? loops closings sys) {s : S}
    (henters : sys.agent.surroundings.Enters diary [] sys.scheduler.state s) :
    Lives diary before topic? loops closings
      { sys with scheduler := sys.scheduler.setState s } := by
  rcases h with ⟨hnone, h | h⟩ | ⟨hsome, h⟩
  · exact .inl ⟨hnone, .inl (h.setState henters)⟩
  · exact .inl ⟨hnone, .inr (h.setState henters)⟩
  · exact .inr ⟨hsome, h.setState henters⟩

/-- Starting an agent that is not fresh does nothing but say so. -/
theorem Lives.ignored (h : Lives diary before topic? loops closings sys)
    (hfresh : ¬ sys.Fresh diary before topic? loops) :
    (sys.agent.isRunning || sys.agent.surroundings.cancelled sys.scheduler.state) = true := by
  rcases h with ⟨-, h | h⟩ | ⟨-, h⟩
  · exact absurd h hfresh
  · rw [h.isRunning, Bool.true_or]
  · rw [h.shut.cancelled, Bool.or_true]

/-- A fresh agent has not been closed. -/
theorem Lives.closings_eq_nil (h : Lives diary before topic? loops closings sys)
    (hfresh : sys.Fresh diary before topic? loops) : closings = [] := by
  rcases h with ⟨hnone, -⟩ | ⟨-, h⟩
  · exact hnone
  · have hcancelled := h.shut.cancelled
    rw [hfresh.configured.cancelled] at hcancelled
    cases hcancelled

theorem Lives.init (h : Lives diary before topic? loops closings sys) (hcan : sys.CanInit)
    (handles : List H) :
    Lives diary before topic? loops closings
      ⟨(sys.agent.init handles sys.scheduler).1, (sys.agent.init handles sys.scheduler).2⟩ := by
  by_cases hfresh : sys.Fresh diary before topic? loops
  · exact .inl ⟨h.closings_eq_nil hfresh, .inr (hfresh.init hcan handles)⟩
  · obtain ⟨s, hinit, henters, -⟩ := init_of_ignored h.keeps (h.ignored hfresh) handles
    rw [hinit]
    exact h.setState henters

theorem Lives.turn (h : Lives diary before topic? loops closings sys) {t : Task S H}
    {rest : List (Task S H)} (hqueue : sys.scheduler.queue = t :: rest) :
    Lives diary before topic? loops closings
      { sys with scheduler := sys.scheduler.advance t rest } := by
  rcases h with ⟨hnone, h | h⟩ | ⟨hsome, h⟩
  · rw [h.queue] at hqueue
    cases hqueue
  · exact .inl ⟨hnone, .inr (h.turn hqueue)⟩
  · exact .inr ⟨hsome, h.turn hqueue⟩

theorem Lives.jump (h : Lives diary before topic? loops closings sys) {wake : Nat}
    (hwake : nanosPerMilli ∣ wake) :
    Lives diary before topic? loops closings
      { sys with scheduler := sys.scheduler.jump wake } := by
  rcases h with ⟨hnone, h | h⟩ | ⟨hsome, h⟩
  · exact .inl ⟨hnone, .inl (h.jump hwake)⟩
  · exact .inl ⟨hnone, .inr (h.jump hwake)⟩
  · exact .inr ⟨hsome, h.jump hwake⟩

/-- After a closing the agent is retired. -/
theorem Lives.close (h : Lives diary before topic? loops closings sys) {fuel : Nat}
    (hfuel : 16 ≤ fuel) {stats : Option LoopStats} {sys' : AgentSystem S H}
    (hclose : Closing.close fuel sys = (some (.value stats), sys')) :
    Lives diary before topic? loops (closings ++ [stats]) sys' := by
  rcases h with ⟨rfl, h⟩ | ⟨⟨first, later, rfl, hlater⟩, h⟩
  · obtain ⟨stats', sys'', hretires⟩ := first_close h hfuel
    obtain ⟨rfl, rfl⟩ : stats = stats' ∧ sys' = sys'' := by
      have heq := hclose.symm.trans hretires.ends
      cases heq
      exact ⟨rfl, rfl⟩
    exact .inr ⟨⟨stats, [], rfl, fun _ hs => absurd hs List.not_mem_nil⟩, hretires.retired⟩
  · obtain ⟨sys'', hclose', hretired, -, -⟩ := h.close fuel
    obtain ⟨rfl, rfl⟩ : stats = none ∧ sys' = sys'' := by
      have heq := hclose.symm.trans hclose'
      cases heq
      exact ⟨rfl, rfl⟩
    refine .inr ⟨⟨first, later ++ [none], rfl, fun stats hs => ?_⟩, hretired⟩
    rcases List.mem_append.mp hs with hs | hs
    · exact hlater stats hs
    · exact List.mem_singleton.mp hs

/-- **Whatever is done to an agent, it is in one of its stages of life.** -/
theorem Hosted.lives (hconf : sys₀.Configured) (hdiary : sys₀.agent.KeepsDiary diary)
    (hpanic : sys₀.agent.surroundings.NoPanic) (h : Hosted diary sys₀ closings sys) :
    Lives diary (diary sys₀.scheduler.state) sys₀.agent.spareTopic? sys₀.scheduler.nextId closings
      sys := by
  induction h with
  | configured => exact .inl ⟨rfl, .inl (hconf.fresh hdiary hpanic)⟩
  | init handles _ hcan ih => exact ih.init hcan handles
  | offer handle _ ih => exact ih.setState (offer_enters ih.keeps handle _)
  | withdraw metric _ ih => exact ih.setState (withdraw_enters ih.keeps metric _)
  | close _ hfuel hclose ih => exact ih.close hfuel hclose
  | turn _ hqueue ih => exact ih.turn hqueue
  | pass ms _ ih => exact ih.jump ⟨ms, Nat.mul_comm _ _⟩
  | other _ henters ih => exact ih.setState henters

theorem Lives.retired (h : Lives diary before topic? loops closings sys) (hsome : closings ≠ []) :
    sys.Retired diary before topic? loops := by
  rcases h with ⟨hnone, -⟩ | ⟨-, h⟩
  · exact absurd hnone hsome
  · exact h

theorem Lives.unclosed (h : Lives diary before topic? loops closings sys) (hnone : closings = []) :
    sys.Fresh diary before topic? loops ∨ sys.Busy diary before topic? loops := by
  rcases h with ⟨-, h⟩ | ⟨⟨first, later, hsome, -⟩, -⟩
  · exact h
  · rw [hnone] at hsome
    cases hsome

theorem Lives.orderly (h : Lives diary before topic? loops closings sys) (hnone : closings = []) :
    ∃ made, Orderly topic? made ∧ diary sys.scheduler.state = before ++ made := by
  rcases h.unclosed hnone with h | h
  · exact ⟨[], orderly_nil _, h.unused.trans (List.append_nil _).symm⟩
  · obtain ⟨id, setup, st, made, -, rfl, hmade, hbefore⟩ := h.loop
    exact ⟨made, hmade.orderly, hbefore⟩

end Lives

end AgentSystem

/-! ### Clients that never answer -/

/-- A state of surroundings that consists of the request to stop, the mark of the closed channel,
and the diary. -/
structure Watched where
  cancelled : Bool := false
  isClosed : Bool := false
  calls : List ClientCall := []

/-- Enters a call in the diary. -/
def Watched.enter (call : ClientCall) (w : Watched) : Watched :=
  { w with calls := w.calls ++ [call] }

/-- Surroundings whose clients never answer. -/
def Surroundings.watched : Surroundings Watched Empty :=
  { Surroundings.quiet Watched with
    cancelled := Watched.cancelled
    channel :=
      { (Surroundings.quiet Watched).channel with
        producer :=
          { send := fun r _ w => (.value (.ok ()), w.enter (.send r))
            flush := fun w => (.never fun w => (.value (.ok ()), w), w.enter .flush)
            close := fun _ w => (.never fun w => (.value (.ok ()), w), w.enter .close) }
        isClosed := Watched.isClosed
        markClosed := fun w => { w with isClosed := true } }
    admin := fun r w =>
      (.never fun w => (.value (.error (.network "")), w), w.enter (.admin r)) }

/-- An agent in such surroundings that is to provision its topic. -/
def AgentSystem.watched : AgentSystem Watched Empty where
  agent :=
    { settings := Agent.unclosing.settings
      clock := Agent.unclosing.clock
      surroundings := .watched
      intake := fun _ => { interest := fun _ => false }
      setIntake := fun _ w => w
      cancel := fun w => { w with cancelled := true }
      spareTopic? := Agent.unclosing.spareTopic? }
  scheduler := { state := {} }

theorem AgentSystem.keepsDiary_watched : AgentSystem.watched.agent.KeepsDiary Watched.calls := by
  have hquiet : ∀ w, Surroundings.watched.Enters Watched.calls [] w w := .refl _ _
  have henter : ∀ call w, Surroundings.watched.Enters Watched.calls [call] w (w.enter call) :=
    fun _ _ => ⟨rfl, rfl, rfl⟩
  exact
    { admin := fun r => henter (.admin r)
      send := fun r _ => henter (.send r)
      flush := henter .flush
      close := fun _ => henter .close
      administered := fun _ _ => hquiet
      flushed := fun _ => hquiet
      closed := fun _ _ => hquiet
      note := fun _ => hquiet
      channelNote := fun _ => hquiet
      setFailures := fun _ => hquiet
      serialize := fun _ => hquiet
      walk := nofun
      read := nofun
      sample := fun _ _ _ _ => hquiet
      host := fun _ _ => hquiet
      favoursCall := hquiet
      markClosed := fun _ => ⟨rfl, rfl, rfl⟩
      cancel := fun _ => ⟨rfl, rfl, rfl⟩
      setIntake := fun _ => hquiet
      intake := fun _ _ => rfl }

theorem Surroundings.noPanic_watched : Surroundings.watched.NoPanic where
  admin _ _ _ _ := nofun
  flush _ _ _ := nofun
  close _ _ _ _ := nofun

end MetricFeed
