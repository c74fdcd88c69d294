/-
MetricFeed/Proofs/Agent/Closing.lean

Closing an agent whose loop runs.  The loop is told to stop and comes to rest at once: it has
exited, or it waits for the administrative client to close.  This client and the closing of the
agent have the same patience.  So a client that never answers is given up by the loop first if its
release had begun before the agent was closed, and the loop exits; if the release begins only as the
agent is closed, both time limits end at the same instant, and the loop is aborted.

* `toChannel_ends` : once the loop has ended, the closing comes to its end;
* `StopsLoop.joining_ends` : what the closing makes of a loop that has come to rest;
* `RunsLoop.comes_to_rest` : every loop that is told to stop does;
* `Running.close_returns` : the closing as a whole.
-/
import MetricFeed.Proofs.Agent.Running
import MetricFeed.Rehearsal.Hosting

namespace MetricFeed

variable {S H : Type}

namespace Closing

/-! ### Closing to the end -/

/-- Waits until the closing is over. -/
def await (fuel : Nat) (c : Closing S) (sys : AgentSystem S H) :
    Option (Reply (Option LoopStats)) × AgentSystem S H :=
  Scheduler.await (·.scheduler) (fun sys scheduler => { sys with scheduler }) waiting fuel c sys

/-- Goes on with a closing to its end. -/
def goOn (fuel : Nat) : Onward S × AgentSystem S H →
    Option (Reply (Option LoopStats)) × AgentSystem S H
  | (.inr reply, sys) => (some reply, sys)
  | (.inl closing, sys) => await fuel closing sys

/-- Closes an agent. -/
def close (fuel : Nat) (sys : AgentSystem S H) :
    Option (Reply (Option LoopStats)) × AgentSystem S H :=
  goOn fuel (start sys)

/-- A session closes its agent as far as it goes, and waits for the rest. -/
theorem session_close_apply {s : Rehearsal.Session} {agent : Agent Rehearsal.World Rehearsal.Handle}
    (h : s.agent? = some agent) :
    Rehearsal.Session.close s =
      match
        match start ⟨agent, s.scheduler⟩ with
        | (.inr reply, sys) => (some reply, sys)
        | (.inl closing, sys) => Rehearsal.Session.awaitClosing closing sys with
      | (result, sys) =>
        (result, { s with agent? := some sys.agent, scheduler := sys.scheduler }) := by
  obtain ⟨scheduler, channel?, intake?, provisioner?, loop?, agent?, nextToken⟩ := s
  cases h
  rfl

/-- An agent that is closed in a session is closed with the session's patience. -/
theorem session_close_eq (s : Rehearsal.Session) (agent : Agent Rehearsal.World Rehearsal.Handle)
    (h : s.agent? = some agent) :
    Rehearsal.Session.close s =
      ((close Rehearsal.Session.patience ⟨agent, s.scheduler⟩).1,
        { s with
          agent? := some (close Rehearsal.Session.patience ⟨agent, s.scheduler⟩).2.agent
          scheduler := (close Rehearsal.Session.patience ⟨agent, s.scheduler⟩).2.scheduler }) := by
  rw [session_close_apply h]
  unfold close
  rcases start (⟨agent, s.scheduler⟩ : AgentSystem Rehearsal.World Rehearsal.Handle) with
    ⟨closing | reply, sys⟩
  · rfl
  · rfl

/-! ### Waits -/

section Waits

variable {sys : AgentSystem S H} {c : Closing S}

/-- A closing that can go on does. -/
theorem await_of_isDue (fuel : Nat) (h : c.isDue sys = true) :
    await (fuel + 1) c sys = goOn fuel (c.step sys) := by
  have hdue : waiting.isDue sys c = true := h
  have hstep : waiting.step sys c = c.step sys := rfl
  unfold await
  rw [Scheduler.await, if_pos hdue, hstep]
  rcases c.step sys with ⟨_ | _, sys'⟩
  · rfl
  · rfl

/-- A closing that waits lets the loop take its turns. -/
theorem await_of_queue (fuel : Nat) (h : c.isDue sys = false) (hqueue : sys.scheduler.queue ≠ []) :
    await (fuel + 1) c sys = await fuel c { sys with scheduler := sys.scheduler.round fuel } := by
  have hdue : ¬ waiting.isDue sys c = true := Bool.eq_false_iff.mp h
  have hbusy : ¬ sys.scheduler.queue.isEmpty = true := by simpa using hqueue
  unfold await
  rw [Scheduler.await, if_neg hdue, if_neg hbusy]

/-- While the loop waits as well, time goes on to the next timer. -/
theorem await_of_wake (fuel : Nat) (h : c.isDue sys = false) (hqueue : sys.scheduler.queue = [])
    {wake : Nat} (hwake : Call.earlier c.wake? sys.scheduler.wake? = some wake) :
    await (fuel + 1) c sys = await fuel c { sys with scheduler := sys.scheduler.jump wake } := by
  have hdue : ¬ waiting.isDue sys c = true := Bool.eq_false_iff.mp h
  have hidle : sys.scheduler.queue.isEmpty = true := by simp [hqueue]
  have hwake' : Call.earlier ((waiting (S := S) (H := H)).wake? c) sys.scheduler.wake? =
      some wake := hwake
  unfold await
  rw [Scheduler.await, if_neg hdue, if_pos hidle, hwake']

/-- Without any timer, there is nothing left to be waited for. -/
theorem await_of_never (fuel : Nat) (h : c.isDue sys = false) (hqueue : sys.scheduler.queue = [])
    (hwake : Call.earlier c.wake? sys.scheduler.wake? = none) :
    await (fuel + 1) c sys = (none, sys) := by
  have hdue : ¬ waiting.isDue sys c = true := Bool.eq_false_iff.mp h
  have hidle : sys.scheduler.queue.isEmpty = true := by simp [hqueue]
  have hwake' : Call.earlier ((waiting (S := S) (H := H)).wake? c) sys.scheduler.wake? = none :=
    hwake
  unfold await
  rw [Scheduler.await, if_neg hdue, if_pos hidle, hwake']

end Waits

/-! ### The channel -/

section Channel

variable (sys : AgentSystem S H) {id : Nat} {ended : Option LoopStats}

/-- The closing of the producer is over once there is something to be done about it. -/
theorem channel_ends_of_isDue (h : sys.scheduler.Over id ended) (stats : Option LoopStats)
    {call : Call S (Except PublishFault Unit)}
    (hpanic : ∀ s message, (call.finish s).1 ≠ .panicked message)
    (hdue : call.isDue sys.scheduler.now = true) {fuel : Nat} (hfuel : 1 ≤ fuel) :
    ∃ sys', await fuel (.closingChannel stats call) sys = (some (.value stats), sys') ∧
      sys'.scheduler.Over id ended := by
  obtain ⟨fuel, rfl⟩ : ∃ k, fuel = k + 1 := ⟨fuel - 1, by omega⟩
  have hfinish : ∃ s', sys.agent.surroundings.channel.finishClose Channel.closeTimeout
      sys.scheduler.now call sys.scheduler.state = (.value (), s') := by
    unfold Channel.finishClose
    split
    · rcases hf : call.finish sys.scheduler.state with ⟨answer | message, s'⟩
      · exact ⟨_, rfl⟩
      · exact absurd (congrArg Prod.fst hf) (hpanic _ message)
    · exact ⟨_, rfl⟩
  obtain ⟨s', hs'⟩ := hfinish
  refine ⟨{ sys with scheduler := sys.scheduler.setState s' }, ?_, h.setState s'⟩
  rw [await_of_isDue (c := .closingChannel stats call) fuel hdue]
  unfold step
  dsimp only
  rw [hs']
  rfl

/-- When the loop has ended its last turn, time goes on until there is something to be done. -/
theorem channel_ends_of_queue_nil (h : sys.scheduler.Over id ended) (stats : Option LoopStats)
    {call : Call S (Except PublishFault Unit)}
    (hpanic : ∀ s message, (call.finish s).1 ≠ .panicked message) {wake : Nat}
    (hwake : call.wake? = some wake) (hqueue : sys.scheduler.queue = []) {fuel : Nat}
    (hfuel : 2 ≤ fuel) :
    ∃ sys', await fuel (.closingChannel stats call) sys = (some (.value stats), sys') ∧
      sys'.scheduler.Over id ended := by
  obtain ⟨fuel, rfl⟩ : ∃ k, fuel = k + 1 := ⟨fuel - 1, by omega⟩
  by_cases hdue : call.isDue sys.scheduler.now = true
  · exact channel_ends_of_isDue sys h stats hpanic hdue (by omega)
  · have hnext : Call.earlier (Closing.wake? (.closingChannel stats call))
        sys.scheduler.wake? = some wake := by
      rw [h.wake? hqueue]
      show Call.earlier call.wake? none = some wake
      rw [hwake]
      rfl
    rw [await_of_wake (c := .closingChannel stats call) fuel (Bool.eq_false_iff.mpr hdue) hqueue
      hnext]
    exact channel_ends_of_isDue { sys with scheduler := sys.scheduler.jump wake } (h.jump wake)
      stats hpanic (Call.isDue_of_wake? hwake (le_jumpTo _ wake)) (by omega)

theorem channel_ends (h : sys.scheduler.Over id ended) (stats : Option LoopStats)
    {call : Call S (Except PublishFault Unit)}
    (hpanic : ∀ s message, (call.finish s).1 ≠ .panicked message) {wake : Nat}
    (hwake : call.wake? = some wake) {fuel : Nat} (hfuel : 3 ≤ fuel) :
    ∃ sys', await fuel (.closingChannel stats call) sys = (some (.value stats), sys') ∧
      sys'.scheduler.Over id ended := by
  obtain ⟨fuel, rfl⟩ : ∃ k, fuel = k + 1 := ⟨fuel - 1, by omega⟩
  by_cases hdue : call.isDue sys.scheduler.now = true
  · exact channel_ends_of_isDue sys h stats hpanic hdue (by omega)
  · by_cases hqueue : sys.scheduler.queue = []
    · exact channel_ends_of_queue_nil sys h stats hpanic hwake hqueue (by omega)
    · obtain ⟨hover, hempty⟩ := h.round (show 0 < fuel by omega)
      rw [await_of_queue (c := .closingChannel stats call) fuel (Bool.eq_false_iff.mpr hdue) hqueue]
      exact channel_ends_of_queue_nil { sys with scheduler := sys.scheduler.round fuel } hover
        stats hpanic hwake hempty (by omega)

/-- A channel that begins to close waits for the producer, but not for ever. -/
theorem beginClose_call {channel : Channel S} {timeout : Duration} {now : Nat} {s s' : S}
    {call : Call S (Except PublishFault Unit)}
    (h : channel.beginClose timeout now s = (some call, s')) :
    (∃ s₀, call.finish = (channel.producer.close timeout s₀).1.finish) ∧
      ∃ wake, call.wake? = some wake := by
  unfold Channel.beginClose at h
  split at h
  · cases h
  · obtain ⟨hcall, -⟩ := Prod.mk.inj h
    obtain rfl := Option.some.inj hcall
    refine ⟨⟨channel.markClosed s, rfl⟩, ?_⟩
    rcases hw : Call.wake? _ with _ | wake
    · cases (Call.earlier_eq_none_iff.mp hw).2
    · exact ⟨wake, rfl⟩

/-- **When the loop has ended, the channel is closed**, and the closing ends with what it knows of
the loop. -/
theorem toChannel_ends (h : sys.scheduler.Over id ended) (stats : Option LoopStats)
    (hpanic : sys.agent.surroundings.NoPanic) {fuel : Nat} (hfuel : 3 ≤ fuel) :
    ∃ sys', goOn fuel (toChannel stats sys) = (some (.value stats), sys') ∧
      sys'.scheduler.Over id ended := by
  unfold toChannel
  dsimp only
  rcases hbegin : sys.agent.surroundings.channel.beginClose Channel.closeTimeout
    sys.scheduler.now sys.scheduler.state with ⟨_ | call, s'⟩
  · -- the channel is closed already
    exact ⟨_, rfl, h.setState s'⟩
  · obtain ⟨⟨s₀, hfinish⟩, wake, hwake⟩ := beginClose_call hbegin
    refine channel_ends _ (h.setState s') stats (fun s message => ?_) hwake hfuel
    rw [hfinish]
    exact hpanic.close _ s₀ s message

end Channel

/-! ### The loop -/

/-- The loop has been told to stop, and there is nothing else to be waited for before the channel is
closed.  No client panics. -/
structure StopsLoop (sys : AgentSystem S H) (id : Nat) (setup : LoopSetup) (st : LoopState S) :
    Prop where
  runs : sys.scheduler.Runs id setup sys.agent.surroundings st
  cancelled : sys.agent.surroundings.cancelled sys.scheduler.state = true
  whole : ∀ message, st.phase ≠ .crashed message
  spare : sys.agent.spareTopic? = none
  keepsStop : sys.agent.surroundings.KeepsStop
  noPanic : sys.agent.surroundings.NoPanic

section Joining

variable {sys : AgentSystem S H} {id deadline : Nat} {setup : LoopSetup} {st : LoopState S}

theorem StopsLoop.jump (h : StopsLoop sys id setup st) (wake : Nat) :
    StopsLoop { sys with scheduler := sys.scheduler.jump wake } id setup st where
  runs := h.runs.jump wake
  cancelled := by
    rw [Scheduler.jump_state]
    exact h.cancelled
  whole := h.whole
  spare := h.spare
  keepsStop := h.keepsStop
  noPanic := h.noPanic

/-- The loop and the closing have the same patience. -/
theorem closeTimeout_eq_joinTimeout : Provisioning.closeTimeout = joinTimeout := rfl

theorem toRelease_of_none (h : sys.agent.spareTopic? = none) (stats : Option LoopStats) :
    toRelease stats sys = toChannel stats sys := by
  unfold toRelease
  rw [h]

/-- A closing that still has patience waits for a loop that has not ended. -/
theorem StopsLoop.isDue_joining (h : StopsLoop sys id setup st) (hgoing : st.phase ≠ .exited)
    (hearly : sys.scheduler.now < deadline) : isDue sys (.joining id deadline) = false := by
  unfold isDue
  dsimp only
  rw [h.runs.result?_eq_none hgoing h.whole]
  simpa using hearly

/-- The closing finds a loop that has exited, and takes its statistics. -/
theorem joining_ends_of_exited (sys : AgentSystem S H) (deadline : Nat)
    (h : sys.scheduler.Runs id setup sys.agent.surroundings st) (hphase : st.phase = .exited)
    (hspare : sys.agent.spareTopic? = none) (hpanic : sys.agent.surroundings.NoPanic) {fuel : Nat}
    (hfuel : 4 ≤ fuel) :
    ∃ sys', await fuel (.joining id deadline) sys = (some (.value (some st.stats)), sys') ∧
      sys'.scheduler.Over id (some st.stats) := by
  obtain ⟨fuel, rfl⟩ : ∃ k, fuel = k + 1 := ⟨fuel - 1, by omega⟩
  have hresult := h.result?_of_exited hphase
  have hdue : isDue sys (.joining id deadline) = true := by
    unfold isDue
    dsimp only
    rw [hresult]
    rfl
  have hstep : step sys (.joining id deadline) = toChannel (some st.stats) sys := by
    unfold step
    dsimp only
    rw [hresult]
    exact toRelease_of_none hspare _
  rw [await_of_isDue fuel hdue, hstep]
  exact toChannel_ends sys (.exited h hphase) _ hpanic (by omega)

/-- The closing has no more patience with a loop that has not stopped, and aborts it. -/
theorem StopsLoop.joining_ends_of_deadline (h : StopsLoop sys id setup st)
    (hgoing : st.phase ≠ .exited) (hdeadline : deadline ≤ sys.scheduler.now) {fuel : Nat}
    (hfuel : 4 ≤ fuel) :
    ∃ sys', await fuel (.joining id deadline) sys = (some (.value none), sys') ∧
      sys'.scheduler.Over id none := by
  obtain ⟨fuel, rfl⟩ : ∃ k, fuel = k + 1 := ⟨fuel - 1, by omega⟩
  have hdue : isDue sys (.joining id deadline) = true := by
    unfold isDue
    simp [hdeadline]
  -- the loop stays as it is while its abortion is noted, and then there is none
  obtain ⟨⟨since, hheld⟩, -⟩ := h.runs.setState
    (sys.agent.surroundings.note (.loopAborted joinTimeout) sys.scheduler.state)
  have hover : ((say (.loopAborted joinTimeout) sys).scheduler.abort id).Over id none :=
    .aborted hheld.abort.1 hheld.abort.2
  let aborted : AgentSystem S H :=
    { say (.loopAborted joinTimeout) sys with
      scheduler := (say (.loopAborted joinTimeout) sys).scheduler.abort id }
  have hspare : aborted.agent.spareTopic? = none := h.spare
  have hstep : step sys (.joining id deadline) = toChannel none aborted := by
    unfold step
    dsimp only
    rw [h.runs.result?_eq_none hgoing h.whole]
    exact toRelease_of_none hspare none
  rw [await_of_isDue fuel hdue, hstep]
  exact toChannel_ends aborted hover none h.noPanic (by omega)

/-- The release is over before the closing has lost its patience, and the loop exits. -/
theorem StopsLoop.joining_ends_of_release (h : StopsLoop sys id setup st)
    {call : Call S (Except AdminFault Unit)} (hphase : st.phase = .releasing call)
    (hdue : call.isDue sys.scheduler.now = true) (hearly : sys.scheduler.now < deadline)
    {fuel : Nat} (hfuel : 5 ≤ fuel) :
    ∃ sys', await fuel (.joining id deadline) sys = (some (.value (some st.stats)), sys') ∧
      sys'.scheduler.Over id (some st.stats) := by
  obtain ⟨fuel, rfl⟩ : ∃ k, fuel = k + 1 := ⟨fuel - 1, by omega⟩
  have hqueue : sys.scheduler.queue ≠ [] := by
    intro hnil
    have hrest := (h.runs.of_queue_nil hnil).1
    unfold LoopState.isDue at hrest
    rw [hphase] at hrest
    rw [show call.isDue sys.scheduler.now = false from hrest] at hdue
    cases hdue
  have hwaits : isDue sys (.joining id deadline) = false :=
    h.isDue_joining (by rw [hphase]; nofun) hearly
  rw [await_of_queue fuel hwaits hqueue]
  have hround : (sys.scheduler.round fuel).Runs id setup sys.agent.surroundings
      { st with phase := .exited } :=
    h.runs.round_of_releasing h.keepsStop h.noPanic h.cancelled hphase hdue (by omega)
  exact joining_ends_of_exited { sys with scheduler := sys.scheduler.round fuel } deadline hround
    rfl h.spare h.noPanic (by omega)

/-! #### A loop at rest -/

/-- Nothing can be done before the release of the client is over; the loop's timer says when. -/
theorem StopsLoop.now_lt_wake (h : StopsLoop sys id setup st) (hqueue : sys.scheduler.queue = [])
    {call : Call S (Except AdminFault Unit)} (hphase : st.phase = .releasing call) {wake : Nat}
    (hwake : call.wake? = some wake) :
    sys.scheduler.now < wake ∧ sys.scheduler.wake? = some wake := by
  obtain ⟨hrest, htimer⟩ := h.runs.of_queue_nil hqueue
  unfold LoopState.isDue at hrest
  unfold LoopState.wake? at htimer
  rw [hphase] at hrest htimer
  refine ⟨Nat.lt_of_not_le fun hover => ?_, htimer.trans hwake⟩
  have hdue : call.isDue sys.scheduler.now = true := Call.isDue_of_wake? hwake hover
  rw [show call.isDue sys.scheduler.now = false from hrest] at hdue
  cases hdue

/-- The loop is waited for if the release of the client is over before the closing has lost its
patience. -/
theorem StopsLoop.joining_ends_of_lt (h : StopsLoop sys id setup st)
    (hqueue : sys.scheduler.queue = []) {call : Call S (Except AdminFault Unit)}
    (hphase : st.phase = .releasing call) {wake : Nat} (hwake : call.wake? = some wake)
    (hwhole : ∃ ms, wake = ms * nanosPerMilli)
    (hdeadline : deadline = timerAt sys.scheduler.now joinTimeout) (hlt : wake < deadline)
    {fuel : Nat} (hfuel : 6 ≤ fuel) :
    ∃ sys', await fuel (.joining id deadline) sys = (some (.value (some st.stats)), sys') ∧
      sys'.scheduler.Over id (some st.stats) := by
  obtain ⟨fuel, rfl⟩ : ∃ k, fuel = k + 1 := ⟨fuel - 1, by omega⟩
  obtain ⟨hnow, htimer⟩ := h.now_lt_wake hqueue hphase hwake
  have hwaits : isDue sys (.joining id deadline) = false :=
    h.isDue_joining (by rw [hphase]; nofun) (Nat.lt_trans hnow hlt)
  have hnext : Call.earlier (Closing.wake? (S := S) (.joining id deadline))
      sys.scheduler.wake? = some wake := by
    rw [htimer]
    exact congrArg some (Nat.min_eq_right (Nat.le_of_lt hlt))
  -- the closing has patience for whole milliseconds, so time does not jump past its end
  have hearly : jumpTo sys.scheduler.now wake < deadline :=
    lt_of_le_jumpTo hwhole (hdeadline ▸ timerAt_of_ne (by omega)) hnow hlt (Nat.le_refl _)
  rw [await_of_wake fuel hwaits hqueue hnext]
  exact (h.jump wake).joining_ends_of_release hphase
    (Call.isDue_of_wake? hwake (le_jumpTo _ wake)) hearly (by omega)

/-- The loop is aborted if the closing has lost its patience when the release of the client is
over. -/
theorem StopsLoop.joining_ends_of_eq (h : StopsLoop sys id setup st)
    (hqueue : sys.scheduler.queue = []) {call : Call S (Except AdminFault Unit)}
    (hphase : st.phase = .releasing call) (hwake : call.wake? = some deadline) {fuel : Nat}
    (hfuel : 5 ≤ fuel) :
    ∃ sys', await fuel (.joining id deadline) sys = (some (.value none), sys') ∧
      sys'.scheduler.Over id none := by
  obtain ⟨fuel, rfl⟩ : ∃ k, fuel = k + 1 := ⟨fuel - 1, by omega⟩
  obtain ⟨hnow, htimer⟩ := h.now_lt_wake hqueue hphase hwake
  have hgoing : st.phase ≠ .exited := by rw [hphase]; nofun
  have hnext : Call.earlier (Closing.wake? (S := S) (.joining id deadline))
      sys.scheduler.wake? = some deadline := by
    rw [htimer]
    exact congrArg some (Nat.min_self deadline)
  rw [await_of_wake fuel (h.isDue_joining hgoing hnow) hqueue hnext]
  exact (h.jump deadline).joining_ends_of_deadline hgoing (le_jumpTo _ deadline) (by omega)

/-- **What becomes of a loop that has come to rest after the request to stop.**  The closing is over
with the loop's statistics, unless the loop waits for the release of the administrative client and
this takes as long as the closing is ready to wait. -/
theorem StopsLoop.joining_ends (h : StopsLoop sys id setup st) (hqueue : sys.scheduler.queue = [])
    (hdeadline : deadline = timerAt sys.scheduler.now joinTimeout) {fuel : Nat}
    (hfuel : 6 ≤ fuel) :
    ∃ result sys', await fuel (.joining id deadline) sys = (some (.value result), sys') ∧
      sys'.scheduler.Over id result ∧
      (result = none ↔ ∃ call, st.phase = .releasing call ∧ call.wake? = some deadline) := by
  obtain ⟨hrest, -⟩ := h.runs.of_queue_nil hqueue
  rcases rests h.cancelled hrest with hphase | ⟨message, hcrashed⟩ | ⟨call, hphase, -⟩
  · -- it has exited
    obtain ⟨sys', hawait, hover⟩ :=
      joining_ends_of_exited sys deadline h.runs hphase h.spare h.noPanic (show 4 ≤ fuel by omega)
    refine ⟨_, sys', hawait, hover, ⟨nofun, ?_⟩⟩
    rintro ⟨call, hphase', -⟩
    rw [hphase] at hphase'
    cases hphase'
  · exact absurd hcrashed (h.whole message)
  · -- it waits for the release of the client
    obtain ⟨s₀, history, hcourse⟩ := h.runs.course
    obtain ⟨made, s₁, span, hmade, -, hwake, hle⟩ := releasing_wake hcourse.awaits hphase
    obtain ⟨hnow, -⟩ := h.now_lt_wake hqueue hphase hwake
    rw [closeTimeout_eq_joinTimeout, ← hdeadline] at hle
    rcases Nat.lt_or_eq_of_le hle with hlt | heq
    · obtain ⟨sys', hawait, hover⟩ := h.joining_ends_of_lt hqueue hphase hwake
        (timerAt_of_ne (by omega)) hdeadline hlt hfuel
      refine ⟨_, sys', hawait, hover, ⟨nofun, ?_⟩⟩
      rintro ⟨call', hphase', hwake'⟩
      rw [hphase] at hphase'
      cases hphase'
      rw [hwake] at hwake'
      exact absurd (Option.some.inj hwake') (Nat.ne_of_lt hlt)
    · rw [heq] at hwake
      obtain ⟨sys', hawait, hover⟩ :=
        h.joining_ends_of_eq hqueue hphase hwake (show 5 ≤ fuel by omega)
      exact ⟨none, sys', hawait, hover, ⟨fun _ => ⟨call, hphase, hwake⟩, fun _ => rfl⟩⟩

end Joining

end Closing

/-! ### The closing as a whole -/

namespace AgentSystem

/-- What a closing relies on: the agent's request to stop reaches its loop and stands, no client
panics, and the agent's clock has not run out. -/
structure Dependable (sys : AgentSystem S H) : Prop where
  cancels : ∀ s, sys.agent.surroundings.cancelled (sys.agent.cancel s) = true
  keepsStop : sys.agent.surroundings.KeepsStop
  noPanic : sys.agent.surroundings.NoPanic
  clock : ∀ moment ≤ sys.scheduler.now, (sys.agent.clock.nowMs? moment).isSome

/-- The agent when its loop has been told to stop. -/
def told (sys : AgentSystem S H) : AgentSystem S H :=
  { agent := { sys.agent with runner? := none }
    scheduler := sys.scheduler.modify fun s =>
      sys.agent.cancel (sys.agent.surroundings.note .closingAgent s) }

/-- The agent after the round in which its loop takes its turn at the request to stop. -/
def atRest (sys : AgentSystem S H) (fuel : Nat) : AgentSystem S H :=
  { sys.told with scheduler := sys.told.scheduler.round fuel }

/-- The loop, which has been told to stop and has taken its turn, waits for the release of the
administrative client, and this takes as long as the closing is ready to wait. -/
def Lingers (sys : AgentSystem S H) (fuel id : Nat) : Prop :=
  ∃ t call, (sys.atRest fuel).scheduler.task? id = some t ∧ t.loop.phase = .releasing call ∧
    call.wake? = some (timerAt sys.scheduler.now joinTimeout)

section Closes

variable {sys : AgentSystem S H} {id : Nat} {setup : LoopSetup} {st : LoopState S}

theorem start_eq (h : sys.agent.runner? = some id) :
    Closing.start sys =
      (.inl (.joining id (timerAt sys.scheduler.now joinTimeout)), sys.told) := by
  unfold Closing.start
  dsimp only
  rw [h]
  rfl

/-- Told to stop, the loop comes to rest. -/
theorem RunsLoop.comes_to_rest (h : sys.RunsLoop id setup st) (hdepends : sys.Dependable)
    {fuel : Nat} (hfuel : 12 < fuel) :
    Closing.StopsLoop sys.told id setup st ∧
      ∃ st', st.ComesTo setup st' ∧ Closing.StopsLoop (sys.atRest fuel) id setup st' ∧
        (sys.atRest fuel).scheduler.queue = [] ∧
        (sys.atRest fuel).scheduler.now = sys.scheduler.now := by
  obtain ⟨-, hspare, hclock, hruns⟩ := h
  have hclock' : ∀ moment ≤ sys.scheduler.now, (setup.clock.nowMs? moment).isSome := by
    rw [hclock]
    exact hdepends.clock
  have htold : sys.told.scheduler.Runs id setup sys.told.agent.surroundings st :=
    hruns.setState _
  have hcancelled := hdepends.cancels (sys.agent.surroundings.note .closingAgent sys.scheduler.state)
  obtain ⟨st', hcomes, hruns', hqueue', hnow', hcancelled'⟩ :=
    htold.round hdepends.keepsStop hcancelled hfuel
  refine ⟨⟨htold, hcancelled, ?_, hspare, hdepends.keepsStop, hdepends.noPanic⟩, st', hcomes,
    ⟨hruns', hcancelled', ?_, hspare, hdepends.keepsStop, hdepends.noPanic⟩, hqueue', hnow'⟩
  · obtain ⟨s₀, history, hcourse⟩ := hruns.course
    exact hcourse.not_crashed hdepends.noPanic hclock'
  · obtain ⟨s₀, history, hcourse⟩ := hruns'.course
    exact hcourse.not_crashed hdepends.noPanic (hnow' ▸ hclock')

/-- Unless the loop has exited before, the closing waits until it has come to rest. -/
theorem close_eq_await (h : sys.RunsLoop id setup st)
    (hstops : Closing.StopsLoop sys.told id setup st) (hgoing : st.phase ≠ .exited) (fuel : Nat) :
    ∃ k, fuel ≤ k ∧ Closing.close (fuel + 1) sys =
      Closing.await k (.joining id (timerAt sys.scheduler.now joinTimeout)) (sys.atRest fuel) := by
  have hstart : Closing.close (fuel + 1) sys = Closing.await (fuel + 1)
      (.joining id (timerAt sys.scheduler.now joinTimeout)) sys.told := by
    unfold Closing.close
    rw [start_eq h.runner]
    rfl
  rw [hstart]
  by_cases hqueue : sys.told.scheduler.queue = []
  · -- it has come to rest before, and there are no turns to be taken
    have hround : sys.told.scheduler.round fuel = sys.told.scheduler :=
      Scheduler.takeTurns_of_queue_nil _ fuel hqueue
    refine ⟨fuel + 1, Nat.le_succ fuel, ?_⟩
    unfold atRest
    rw [hround]
  · have hearly : sys.told.scheduler.now < timerAt sys.scheduler.now joinTimeout :=
      lt_timerAt _ (by decide)
    exact ⟨fuel, Nat.le_refl fuel,
      Closing.await_of_queue fuel (hstops.isDue_joining hgoing hearly) hqueue⟩

/-- Told to stop, the loop comes to rest, and the closing ends as it has to from there. -/
theorem RunsLoop.close_ends (h : sys.RunsLoop id setup st) (hdepends : sys.Dependable) {fuel : Nat}
    (hfuel : 12 < fuel) :
    ∃ st' result sys', st.ComesTo setup st' ∧
      (sys.atRest fuel).scheduler.Runs id setup sys.agent.surroundings st' ∧
      (sys.atRest fuel).scheduler.now = sys.scheduler.now ∧
      Closing.close (fuel + 1) sys = (some (.value result), sys') ∧
      sys'.scheduler.Over id result ∧
      (result = none ↔ ∃ call, st'.phase = .releasing call ∧
        call.wake? = some (timerAt sys.scheduler.now joinTimeout)) := by
  obtain ⟨hstops, st', hcomes, hstops', hqueue', hnow'⟩ := h.comes_to_rest hdepends hfuel
  by_cases hphase : st.phase = .exited
  · -- it has exited before
    obtain ⟨sys', hawait, hover⟩ := Closing.joining_ends_of_exited sys.told
      (timerAt sys.scheduler.now joinTimeout) hstops.runs hphase hstops.spare hstops.noPanic
      (show 4 ≤ fuel + 1 by omega)
    have hclose : Closing.close (fuel + 1) sys = (some (.value (some st.stats)), sys') := by
      unfold Closing.close
      rw [start_eq h.runner]
      exact hawait
    refine ⟨st', _, sys', hcomes, hstops'.runs, hnow', hclose, hover, ⟨nofun, ?_⟩⟩
    rintro ⟨call, hphase', -⟩
    refine absurd hphase' (hcomes.ne_releasing ?_ call)
    unfold LoopState.HasReleased
    rw [hphase]
    trivial
  · obtain ⟨k, hk, hclose⟩ := close_eq_await h hstops hphase fuel
    obtain ⟨result, sys', hawait, hover, hnone⟩ := hstops'.joining_ends hqueue'
      (congrArg (timerAt · joinTimeout) hnow'.symm) (show 6 ≤ k by omega)
    exact ⟨st', result, sys', hcomes, hstops'.runs, hnow', hclose.trans hawait, hover, hnone⟩

/-- **Closing an agent ends with the statistics of its loop, unless the loop lingers.**  Whatever the
clients do, short of a panic, and wherever the loop is when the agent is closed for the first time:

* the closing ends, and what it yields are the statistics with which the loop has exited, if any;
* it yields none, and the loop has been aborted, exactly if the loop, once it has been told to stop,
  waits for the administrative client to close, and neither the answer nor the loop's own time limit
  comes before the closing has lost its patience;
* this does not happen when there is no client that the loop has yet to release;
* nor when the release has begun so early that its time limit comes before;
* nor when the client closes before. -/
theorem Running.close_returns (h : sys.Running) (hdepends : sys.Dependable) {fuel : Nat}
    (hfuel : 12 < fuel) :
    ∃ id t result sys', sys.agent.runner? = some id ∧ sys.scheduler.task? id = some t ∧
      Closing.close (fuel + 1) sys = (some (.value result), sys') ∧
      sys'.scheduler.result? id = result.map .exited ∧
      (result = none ↔ sys.Lingers fuel id) ∧
      (t.loop.HasReleased t.setup → result.isSome) ∧
      (∀ call deadline, t.loop.phase = .releasing call → call.deadline = some deadline →
        deadline < timerAt sys.scheduler.now joinTimeout → result.isSome) ∧
      ((∀ s, ∃ span,
        (sys.agent.surroundings.admin (.close Provisioning.closeTimeout) s).1.delay = some span ∧
          timerAt sys.scheduler.now span < timerAt sys.scheduler.now joinTimeout) →
        result.isSome) := by
  obtain ⟨id, setup, st, hloop⟩ := h.runs
  obtain ⟨since, hheld⟩ := hloop.runs.held
  obtain ⟨st', result, sys', hcomes, hruns', hnow', hclose, hover, hnone⟩ :=
    hloop.close_ends hdepends hfuel
  obtain ⟨since', hheld'⟩ := hruns'.held
  obtain ⟨s₀, history, hcourse⟩ := hruns'.course
  have hsome : (∀ call, st'.phase = .releasing call →
      call.wake? ≠ some (timerAt sys.scheduler.now joinTimeout)) → result.isSome := by
    intro hnot
    rw [Option.isSome_iff_ne_none]
    intro hnil
    obtain ⟨call, hphase, hwake⟩ := hnone.mp hnil
    exact hnot call hphase hwake
  refine ⟨id, _, result, sys', hloop.runner, hheld.task?, hclose, hover.result?, ?_, ?_, ?_, ?_⟩
  · rw [hnone]
    constructor
    · rintro ⟨call, hphase, hwake⟩
      exact ⟨_, call, hheld'.task?, hphase, hwake⟩
    · rintro ⟨t, call, htask, hphase, hwake⟩
      obtain rfl := Option.some.inj (hheld'.task?.symm.trans htask)
      exact ⟨call, hphase, hwake⟩
  · intro hreleased
    exact hsome fun call hphase => absurd hphase (hcomes.ne_releasing hreleased call)
  · intro call deadline hphase hdeadline hlt
    refine hsome fun call' hphase' hwake => ?_
    obtain rfl := hcomes.releasing hphase hphase'
    have hle := Call.le_deadline_of_wake? hwake hdeadline
    omega
  · intro hprompt
    refine hsome fun call hphase hwake => ?_
    obtain ⟨made, s₁, span, hmade, hcall, -, -⟩ := releasing_wake hcourse.awaits hphase
    obtain ⟨delay, hdelay, hlt⟩ := hprompt s₁
    have hanswered : call.answeredAt = some (timerAt made delay) := by
      rw [hcall]
      unfold Flight.await
      rw [hdelay]
      rfl
    have hle := Call.le_answeredAt_of_wake? hwake hanswered
    have hmono := timerAt_mono (hnow' ▸ hmade) delay
    omega

end Closes

end AgentSystem

/-! ### A client that does not close -/

/-- Surroundings whose administrative client fails every request and never closes. -/
def Surroundings.unclosing : Surroundings Bool Empty :=
  { Surroundings.quiet Bool with
    cancelled := id
    admin := fun r s =>
      (⟨match r with
        | .close _ => none
        | _ => some ⟨0⟩, fun s => (.value (.error (.network "")), s)⟩, s) }

theorem unclosing_partitions_pos : 0 < 4 := by decide

/-- An agent in such surroundings that is to provision its topic. -/
def Agent.unclosing : Agent Bool Empty where
  settings := { (default : Settings) with interval := .ofSeconds 60 }
  clock := ⟨0, 0⟩
  surroundings := .unclosing
  intake _ := { interest := fun _ => false }
  setIntake _ s := s
  cancel _ := true
  spareTopic? := some
    { name := "metrics", partitions := 4, replication := 1, retention := .ofSeconds 1
      cleanupPolicy := .delete
      partitions_pos := unclosing_partitions_pos, replication_pos := Nat.one_pos }

/-- A clock that has begun at zero does not run out: what it shows is what it counts. -/
theorem Clock.isSome_nowMs? (origin now : Nat) : ((⟨0, origin⟩ : Clock).nowMs? now).isSome := by
  have hle := (Clock.elapsedMs ⟨0, origin⟩ now).le_toInt
  have hlt := (Clock.elapsedMs ⟨0, origin⟩ now).toInt_lt
  unfold Clock.nowMs?
  rw [if_pos]
  · rfl
  · simp only [Int64.toInt_zero, Bool.and_eq_true, decide_eq_true_eq, greatestMillis]
    constructor <;> omega

theorem Surroundings.keepsStop_unclosing : Surroundings.unclosing.KeepsStop where
  idle :=
    { refl := fun _ h => h
      trans := fun h h' hc => h' (h hc)
      note := fun _ _ h => h
      flush := fun _ h => h
      flushed := fun _ _ h => h
      admin := fun _ _ h => h
      answered := fun _ _ _ h => h
      favoursCall := fun _ h => h }
  setFailures := fun _ _ h => h

theorem Surroundings.noPanic_unclosing : Surroundings.unclosing.NoPanic where
  admin _ _ _ _ := nofun
  flush _ _ _ := nofun
  close _ _ _ _ := nofun

theorem AgentSystem.dependable_unclosing {sys : AgentSystem Bool Empty}
    (h : sys.agent.surroundings = .unclosing) (hclock : sys.agent.clock = ⟨0, 0⟩)
    (hcancel : ∀ s, sys.agent.cancel s = true) : sys.Dependable where
  cancels s := by
    rw [h]
    exact hcancel s
  keepsStop := h ▸ Surroundings.keepsStop_unclosing
  noPanic := h ▸ Surroundings.noPanic_unclosing
  clock _ _ := hclock ▸ Clock.isSome_nowMs? 0 _

/-- The agent five milliseconds after its loop has begun to wait for the client to close. -/
def AgentSystem.unclosing : AgentSystem Bool Empty where
  agent := { Agent.unclosing with spareTopic? := none, runner? := some 0 }
  scheduler :=
    { now := 5000000
      idle :=
        [{  id := 0
            setup := Agent.unclosing.loopSetup
            surroundings := .unclosing
            loop :=
              { phase := .releasing
                  { answeredAt := none
                    deadline := some 10000000000
                    finish := fun s => (.value (.error (.network "")), s) }
                lastPass := 0 }
            since := 1 }]
      nextId := 1
      turns := 1
      state := false }

theorem AgentSystem.running_unclosing : AgentSystem.unclosing.Running :=
  (((((@Running.init _ _ Agent.unclosing { state := false } [] rfl rfl rfl).turn rfl).turn rfl).turn
    rfl).turn rfl).pass 5000000

/-- The client never closes, and yet the closing of the agent yields the loop's statistics: the loop
has begun to wait for the client some milliseconds before. -/
theorem close_returns_unclosing :
    AgentSystem.unclosing.Running ∧ AgentSystem.unclosing.Dependable ∧
      ∃ stats sys', Closing.close 20 AgentSystem.unclosing = (some (.value (some stats)), sys') ∧
        sys'.scheduler.result? 0 = some (.exited stats) := by
  have hdepends : AgentSystem.unclosing.Dependable :=
    AgentSystem.dependable_unclosing rfl rfl fun _ => rfl
  obtain ⟨id, t, result, sys', hrunner, htask, hclose, hresult, -, -, hearly, -⟩ :=
    AgentSystem.running_unclosing.close_returns hdepends (show 12 < 19 by decide)
  cases hrunner
  cases htask
  obtain ⟨stats, rfl⟩ := Option.isSome_iff_exists.mp (hearly _ _ rfl rfl (by decide))
  exact ⟨AgentSystem.running_unclosing, hdepends, stats, sys', hclose, hresult⟩

/-- A closing that comes before the release has begun aborts the loop. -/
theorem close_aborts_unclosing :
    ∃ sys : AgentSystem Bool Empty, sys.Running ∧ sys.Dependable ∧
      (Closing.close 20 sys).1 = some (.value none) :=
  ⟨_, @AgentSystem.Running.init _ _ Agent.unclosing { state := false } [] rfl rfl rfl,
    AgentSystem.dependable_unclosing rfl rfl fun _ => rfl, rfl⟩

end MetricFeed
