/-
MetricFeed/Proofs/Agent/Departure.lean

Closing an agent for the first time, as the diary of calls shows it.  Whatever the loop does when it
is told to stop, it comes to its end or is aborted; by then the administrative client has been told
to close, if there is one.  Then the producer is told to close, and this is the last call.

* `Winding.comesToChannel` : the closing of an agent whose loop runs comes to the channel;
* `Ready.toRelease_comesToChannel` : so does that of an agent whose loop has never been started;
* `Ready.toChannel_ends` : from there the closing comes to its end with one call, the closing of the
  producer.

Each wait is within its time limit, counted at whole milliseconds.
-/
import MetricFeed.Proofs.Agent.Closing
import MetricFeed.Proofs.Agent.Turns

namespace MetricFeed

variable {S H : Type}

/-! ### What is relied on -/

/-- A diary is kept of the calls of the agent's clients.  The agent marks its channel as closed,
asks its loop to stop, and changes its intake, and each of these does what it is for and no more. -/
structure Agent.KeepsDiary (a : Agent S H) (diary : S → List ClientCall) : Prop
    extends a.surroundings.KeepsDiary diary where
  markClosed : ∀ s, diary (a.surroundings.channel.markClosed s) = diary s ∧
    a.surroundings.channel.isClosed (a.surroundings.channel.markClosed s) = true ∧
    a.surroundings.cancelled (a.surroundings.channel.markClosed s) = a.surroundings.cancelled s
  cancel : ∀ s, diary (a.cancel s) = diary s ∧
    a.surroundings.channel.isClosed (a.cancel s) = a.surroundings.channel.isClosed s ∧
    a.surroundings.cancelled (a.cancel s) = true
  setIntake : ∀ intake s, a.surroundings.Enters diary [] s (a.setIntake intake s)
  intake : ∀ n s, a.intake (a.surroundings.note n s) = a.intake s

/-- Who provisions the topic and which task runs the loop is nothing to the diary. -/
theorem Agent.KeepsDiary.handOver {a : Agent S H} {diary : S → List ClientCall}
    (h : a.KeepsDiary diary) (spareTopic? : Option TopicSpec) (runner? : Option Nat) :
    Agent.KeepsDiary { a with spareTopic?, runner? } diary :=
  ⟨h.toKeepsDiary, h.markClosed, h.cancel, h.setIntake, h.intake⟩

namespace Closing

/-! ### No loop is started -/

section Starts

theorem toChannel_nextId (stats : Option LoopStats) (sys : AgentSystem S H) :
    (toChannel stats sys).2.scheduler.nextId = sys.scheduler.nextId := by
  unfold toChannel
  dsimp only
  split <;> rfl

theorem toRelease_nextId (stats : Option LoopStats) (sys : AgentSystem S H) :
    (toRelease stats sys).2.scheduler.nextId = sys.scheduler.nextId := by
  unfold toRelease
  split
  · exact toChannel_nextId stats sys
  · rfl

theorem start_nextId (sys : AgentSystem S H) :
    (start sys).2.scheduler.nextId = sys.scheduler.nextId := by
  unfold start
  dsimp only
  split
  · rfl
  · exact toRelease_nextId none _

theorem step_nextId (c : Closing S) (sys : AgentSystem S H) :
    (c.step sys).2.scheduler.nextId = sys.scheduler.nextId := by
  unfold step
  rcases c with ⟨task, deadline⟩ | ⟨stats, call⟩ | ⟨stats, call⟩
  · dsimp only
    split
    · exact toRelease_nextId _ sys
    · exact toRelease_nextId none _
    · exact toRelease_nextId none _
  · dsimp only
    split
    · exact toChannel_nextId stats _
    · rfl
  · dsimp only
    split <;> rfl

theorem await_nextId (fuel : Nat) (c : Closing S) (sys : AgentSystem S H) :
    (await fuel c sys).2.scheduler.nextId = sys.scheduler.nextId := by
  induction fuel generalizing c sys with
  | zero => rfl
  | succ fuel ih =>
    by_cases hdue : c.isDue sys = true
    · have hstep := step_nextId c sys
      rw [await_of_isDue fuel hdue]
      rcases hs : c.step sys with ⟨c' | reply, sys'⟩ <;> rw [hs] at hstep
      · exact (ih c' sys').trans hstep
      · exact hstep
    · by_cases hqueue : sys.scheduler.queue = []
      · rcases hwake : Call.earlier c.wake? sys.scheduler.wake? with _ | wake
        · rw [await_of_never fuel (Bool.eq_false_iff.mpr hdue) hqueue hwake]
        · rw [await_of_wake fuel (Bool.eq_false_iff.mpr hdue) hqueue hwake]
          exact (ih c _).trans (sys.scheduler.jump_nextId wake)
      · rw [await_of_queue fuel (Bool.eq_false_iff.mpr hdue) hqueue]
        exact (ih c _).trans (sys.scheduler.round_nextId fuel)

/-- Closing an agent starts no loop. -/
theorem close_nextId (fuel : Nat) (sys : AgentSystem S H) :
    (close fuel sys).2.scheduler.nextId = sys.scheduler.nextId := by
  have hstart := start_nextId sys
  unfold close
  rcases hs : start sys with ⟨c | reply, sys'⟩ <;> rw [hs] at hstart
  · exact (await_nextId fuel c sys').trans hstart
  · exact hstart

end Starts

variable {a : Agent S H} {diary : S → List ClientCall} {before : List ClientCall}
variable {topic? : Option TopicSpec} {sch : Scheduler S H}

/-! ### Waiting when the loop is over -/

section Waits

variable {c : Closing S} {wake : Nat}

theorem await_of_finished_of_queue_nil (h : sch.Finished) (hqueue : sch.queue = [])
    (hnow : nanosPerMilli ∣ sch.now) (hwake : c.wake? = some wake) (hwhole : nanosPerMilli ∣ wake)
    (hle : sch.now ≤ wake) (hdue : ∀ sch : Scheduler S H, wake ≤ sch.now → c.isDue ⟨a, sch⟩ = true)
    {fuel : Nat} (hfuel : 2 ≤ fuel) :
    ∃ k sch', fuel ≤ k + 2 ∧ await fuel c ⟨a, sch⟩ = goOn k (c.step ⟨a, sch'⟩) ∧ sch'.Finished ∧
      sch'.state = sch.state ∧ nanosPerMilli ∣ sch'.now ∧ sch'.now ≤ wake := by
  obtain ⟨fuel, rfl⟩ : ∃ k, fuel = k + 2 := ⟨fuel - 2, by omega⟩
  by_cases hready : c.isDue ⟨a, sch⟩ = true
  · exact ⟨fuel + 1, sch, by omega, await_of_isDue _ hready, h, rfl, hnow, hle⟩
  · have hnext : Call.earlier c.wake? sch.wake? = some wake := by
      rw [h.wake? hqueue, hwake]
      rfl
    have hjump : (sch.jump wake).now = wake := jumpTo_of_dvd hnow hle
    have hwait : await (fuel + 2) c ⟨a, sch⟩ = await (fuel + 1) c ⟨a, sch.jump wake⟩ :=
      await_of_wake (fuel + 1) (Bool.eq_false_iff.mpr hready) hqueue hnext
    exact ⟨fuel, sch.jump wake, Nat.le_refl _,
      hwait.trans (await_of_isDue fuel (hdue _ (Nat.le_of_eq hjump.symm))), h.jump wake,
      sch.jump_state wake, hjump.symm ▸ hwhole, Nat.le_of_eq hjump⟩

/-- When the loop is over, a closing waits for nothing but its own timer. -/
theorem await_of_finished (h : sch.Finished) (hnow : nanosPerMilli ∣ sch.now)
    (hwake : c.wake? = some wake) (hwhole : nanosPerMilli ∣ wake) (hle : sch.now ≤ wake)
    (hdue : ∀ sch : Scheduler S H, wake ≤ sch.now → c.isDue ⟨a, sch⟩ = true) {fuel : Nat}
    (hfuel : 3 ≤ fuel) :
    ∃ k sch', fuel ≤ k + 3 ∧ await fuel c ⟨a, sch⟩ = goOn k (c.step ⟨a, sch'⟩) ∧ sch'.Finished ∧
      sch'.state = sch.state ∧ nanosPerMilli ∣ sch'.now ∧ sch'.now ≤ wake := by
  obtain ⟨fuel, rfl⟩ : ∃ k, fuel = k + 3 := ⟨fuel - 3, by omega⟩
  by_cases hready : c.isDue ⟨a, sch⟩ = true
  · exact ⟨fuel + 2, sch, by omega, await_of_isDue _ hready, h, rfl, hnow, hle⟩
  · by_cases hqueue : sch.queue = []
    · obtain ⟨k, sch', hk, hrest⟩ := await_of_finished_of_queue_nil h hqueue hnow hwake hwhole hle
        hdue (show 2 ≤ fuel + 3 by omega)
      exact ⟨k, sch', by omega, hrest⟩
    · -- the loop ends its last turn
      obtain ⟨hover, hempty, hstate, hsame⟩ := h.round (show 0 < fuel + 2 by omega)
      obtain ⟨k, sch', hk, hawait, hover', hstate', hrest⟩ := await_of_finished_of_queue_nil
        (a := a) hover hempty (hsame ▸ hnow) hwake hwhole (hsame ▸ hle) hdue
        (show 2 ≤ fuel + 2 by omega)
      have hwait : await (fuel + 3) c ⟨a, sch⟩ = await (fuel + 2) c ⟨a, sch.round (fuel + 2)⟩ :=
        await_of_queue (fuel + 2) (Bool.eq_false_iff.mpr hready) hqueue
      exact ⟨k, sch', by omega, hwait.trans hawait, hover', hstate'.trans hstate, hrest⟩

end Waits

/-! ### The channel -/

/-- The loop is over, and all calls have been made but the closing of the producer. -/
structure Ready (a : Agent S H) (diary : S → List ClientCall) (before : List ClientCall)
    (topic? : Option TopicSpec) (sch : Scheduler S H) : Prop where
  finished : sch.Finished
  cancelled : a.surroundings.cancelled sch.state = true
  isOpen : a.surroundings.channel.isClosed sch.state = false
  made : ∃ made, Worked topic? made ∧ diary sch.state = before ++ made

/-- The loop is over, and all calls have been made, the closing of the producer last. -/
structure Shut (a : Agent S H) (diary : S → List ClientCall) (before : List ClientCall)
    (topic? : Option TopicSpec) (sch : Scheduler S H) : Prop where
  finished : sch.Finished
  cancelled : a.surroundings.cancelled sch.state = true
  isClosed : a.surroundings.channel.isClosed sch.state = true
  made : ∃ made, Worked topic? made ∧ diary sch.state = before ++ made ++ [.close]

/-- What enters no call leaves it at that. -/
theorem Ready.setState (h : Ready a diary before topic? sch) {s : S}
    (henters : a.surroundings.Enters diary [] sch.state s) :
    Ready a diary before topic? (sch.setState s) := by
  obtain ⟨made, hmade, hdiary⟩ := h.made
  exact ⟨h.finished.setState s, henters.cancelled.trans h.cancelled,
    henters.isClosed.trans h.isOpen, made, hmade,
    henters.diary.trans ((List.append_nil _).trans hdiary)⟩

theorem Shut.setState (h : Shut a diary before topic? sch) {s : S}
    (henters : a.surroundings.Enters diary [] sch.state s) :
    Shut a diary before topic? (sch.setState s) := by
  obtain ⟨made, hmade, hdiary⟩ := h.made
  exact ⟨h.finished.setState s, henters.cancelled.trans h.cancelled,
    henters.isClosed.trans h.isClosed, made, hmade,
    henters.diary.trans ((List.append_nil _).trans hdiary)⟩

section Channel

variable (hdiary : a.KeepsDiary diary) (hpanic : a.surroundings.NoPanic)

include hdiary

/-- The answer of the producer is taken, or it is given up. -/
theorem finishClose_value (call : Call S (Except PublishFault Unit))
    (hquiet : ∀ s, a.surroundings.Enters diary [] s (call.finish s).2)
    (hwhole : ∀ s message, (call.finish s).1 ≠ .panicked message) (timeout : Duration) (now : Nat)
    (s : S) :
    ∃ s', a.surroundings.channel.finishClose timeout now call s = (.value (), s') ∧
      a.surroundings.Enters diary [] s s' := by
  have hf := hquiet s
  unfold Channel.finishClose
  split
  · rcases hr : call.finish s with ⟨answer | message, s'⟩ <;> rw [hr] at hf
    · exact ⟨_, rfl, hf.after (hdiary.channelNote _ s')⟩
    · exact absurd (congrArg Prod.fst hr) (hwhole s message)
  · exact ⟨_, rfl, hdiary.channelNote _ s⟩

/-- The answer of the administrative client is taken, or it is given up. -/
theorem finishRelease_value (call : Call S (Except AdminFault Unit))
    (hquiet : ∀ s, a.surroundings.Enters diary [] s (call.finish s).2)
    (hwhole : ∀ s message, (call.finish s).1 ≠ .panicked message) (timeout : Duration) (now : Nat)
    (s : S) :
    ∃ s', Provisioning.finishRelease a.surroundings.note timeout now call s = (.value (), s') ∧
      a.surroundings.Enters diary [] s s' := by
  have henters := finishRelease_enters hdiary.toKeepsDiary hquiet timeout now s
  rcases hr : Provisioning.finishRelease a.surroundings.note timeout now call s with
    ⟨_ | message, s'⟩
  · rw [hr] at henters
    exact ⟨s', rfl, henters⟩
  · exact absurd (Provisioning.finishRelease_panicked hr).2 (hwhole s message)

/-- An open channel is marked as closed, and the producer is told to close. -/
theorem toChannel_of_open (hopen : a.surroundings.channel.isClosed sch.state = false)
    (stats : Option LoopStats) :
    ∃ s₀ s', toChannel stats ⟨a, sch⟩ =
        (.inl (.closingChannel stats ((a.surroundings.channel.producer.close Channel.closeTimeout
            s₀).1.await sch.now (some Channel.closeTimeout))), ⟨a, sch.setState s'⟩) ∧
      diary s' = diary sch.state ++ [.close] ∧ a.surroundings.channel.isClosed s' = true ∧
      a.surroundings.cancelled s' = a.surroundings.cancelled sch.state := by
  obtain ⟨hmark, hmarked, hstop⟩ := hdiary.markClosed sch.state
  have hclose := hdiary.close Channel.closeTimeout (a.surroundings.channel.markClosed sch.state)
  refine ⟨a.surroundings.channel.markClosed sch.state, _, ?_, hclose.diary.trans (by rw [hmark]),
    hclose.isClosed.trans hmarked, hclose.cancelled.trans hstop⟩
  unfold toChannel Channel.beginClose
  dsimp only
  rw [hopen]
  rfl

omit hdiary in
/-- A channel that has been closed is left alone. -/
theorem toChannel_of_closed (hclosed : a.surroundings.channel.isClosed sch.state = true)
    (stats : Option LoopStats) :
    toChannel stats ⟨a, sch⟩ = (.inr (.value stats), ⟨a, sch.setState sch.state⟩) := by
  unfold toChannel Channel.beginClose
  dsimp only
  rw [hclosed]
  rfl

/-- When the producer has answered, or is given up, the closing ends. -/
theorem step_closingChannel (sch : Scheduler S H) (call : Call S (Except PublishFault Unit))
    (hquiet : ∀ s, a.surroundings.Enters diary [] s (call.finish s).2)
    (hwhole : ∀ s message, (call.finish s).1 ≠ .panicked message) (stats : Option LoopStats) :
    ∃ s', step ⟨a, sch⟩ (.closingChannel stats call) =
        (.inr (.value stats), ⟨a, sch.setState s'⟩) ∧
      a.surroundings.Enters diary [] sch.state s' := by
  obtain ⟨s', hvalue, henters⟩ :=
    finishClose_value hdiary call hquiet hwhole Channel.closeTimeout sch.now sch.state
  refine ⟨s', ?_, henters⟩
  unfold step
  dsimp only
  rw [hvalue]

include hpanic

/-- **From the channel on, the closing comes to its end with one more call**, the closing of the
producer. -/
theorem Ready.toChannel_ends (h : Ready a diary before topic? sch)
    (hwhole : nanosPerMilli ∣ sch.now) (stats : Option LoopStats) {fuel : Nat} (hfuel : 3 ≤ fuel) :
    ∃ sch', goOn fuel (toChannel stats ⟨a, sch⟩) = (some (.value stats), ⟨a, sch'⟩) ∧
      Shut a diary before topic? sch' ∧ diary sch'.state = diary sch.state ++ [.close] ∧
      nanosPerMilli ∣ sch'.now ∧ sch'.now ≤ sch.now + Channel.closeTimeout.nanos := by
  -- the producer is told to close
  obtain ⟨s₀, s₁, hbegin, htold, hmarked, hstop⟩ := toChannel_of_open hdiary h.isOpen stats
  let told := sch.setState s₁
  have hshut : Shut a diary before topic? told := by
    obtain ⟨made, hmade, hmade'⟩ := h.made
    exact ⟨h.finished.setState _, hstop.trans h.cancelled, hmarked, made, hmade,
      htold.trans (by rw [hmade'])⟩
  -- it is waited for
  let flight := (a.surroundings.channel.producer.close Channel.closeTimeout s₀).1
  let call := flight.await sch.now (some Channel.closeTimeout)
  obtain ⟨span, hwake, hle⟩ := flight.await_wake? sch.now Channel.closeTimeout
  have hdue : ∀ sch : Scheduler S H, timerAt told.now span ≤ sch.now →
      isDue ⟨a, sch⟩ (.closingChannel stats call) = true := fun _ hlate =>
    Call.isDue_of_wake? hwake hlate
  obtain ⟨k, sch', hk, hawait, hfinished, hstate, hnow, hnow'⟩ :=
    await_of_finished (c := .closingChannel stats call) hshut.finished hwhole hwake
      (dvd_timerAt hwhole span) (le_timerAt _ _) hdue hfuel
  have hshut' : Shut a diary before topic? sch' :=
    ⟨hfinished, hstate ▸ hshut.cancelled, hstate ▸ hshut.isClosed, hstate ▸ hshut.made⟩
  -- and it has answered, or is given up
  obtain ⟨s', hstep, henters⟩ := step_closingChannel hdiary sch' call
    (hdiary.closed Channel.closeTimeout _) (hpanic.close Channel.closeTimeout _) stats
  have hlimit : timerAt sch.now Channel.closeTimeout = sch.now + Channel.closeTimeout.nanos :=
    timerAt_of_dvd hwhole (by decide)
  refine ⟨sch'.setState s', ?_, hshut'.setState henters, ?_, hnow,
    Nat.le_trans hnow' (hlimit ▸ hle)⟩
  · rw [hbegin]
    exact hawait.trans (by rw [hstep]; rfl)
  · rw [← htold]
    exact henters.diary.trans ((List.append_nil _).trans (congrArg diary hstate))

end Channel

/-- The closing goes on to the channel by the instant `latest`, when everything else has been
done. -/
def ComesToChannel (a : Agent S H) (diary : S → List ClientCall) (before : List ClientCall)
    (topic? : Option TopicSpec) (latest : Nat)
    (outcome : Option (Reply (Option LoopStats)) × AgentSystem S H) : Prop :=
  ∃ k stats sch, 3 ≤ k ∧ outcome = goOn k (toChannel stats ⟨a, sch⟩) ∧
    Ready a diary before topic? sch ∧ nanosPerMilli ∣ sch.now ∧ sch.now ≤ latest

/-- Having come to the channel, the closing comes to its end. -/
theorem ComesToChannel.ends {latest : Nat}
    {outcome : Option (Reply (Option LoopStats)) × AgentSystem S H}
    (h : ComesToChannel a diary before topic? latest outcome) (hdiary : a.KeepsDiary diary)
    (hpanic : a.surroundings.NoPanic) :
    ∃ stats sch', outcome = (some (.value stats), ⟨a, sch'⟩) ∧
      Shut a diary before topic? sch' ∧ nanosPerMilli ∣ sch'.now ∧
      sch'.now ≤ latest + Channel.closeTimeout.nanos ∧
      ∃ k sch, outcome = goOn k (toChannel stats ⟨a, sch⟩) ∧ Ready a diary before topic? sch ∧
        diary sch'.state = diary sch.state ++ [.close] := by
  obtain ⟨k, stats, sch, hk, hon, hready, hnow, hle⟩ := h
  obtain ⟨sch', hends, hshut, hlast, hnow', hle'⟩ :=
    hready.toChannel_ends hdiary hpanic hnow stats hk
  exact ⟨stats, sch', hon.trans hends, hshut, hnow',
    Nat.le_trans hle' (Nat.add_le_add_right hle _), k, sch, hon, hready, hlast⟩

/-! ### An agent whose loop has never been started -/

section Release

variable (hdiary : a.KeepsDiary diary) (hpanic : a.surroundings.NoPanic)

/-- The client is told to close. -/
theorem toRelease_of_some {spec : TopicSpec} (hspare : a.spareTopic? = some spec)
    (stats : Option LoopStats) :
    toRelease stats ⟨a, sch⟩ =
      (.inl (.releasing stats ((a.surroundings.admin (.close Provisioning.closeTimeout)
          sch.state).1.await sch.now (some Provisioning.closeTimeout))),
        ⟨{ a with spareTopic? := none }, sch.setState
          (a.surroundings.admin (.close Provisioning.closeTimeout) sch.state).2⟩) := by
  unfold toRelease Provisioning.beginRelease
  dsimp only
  rw [hspare]

include hdiary

/-- When the client has answered, or is given up, the closing goes on to the channel. -/
theorem step_releasing (sch : Scheduler S H) (call : Call S (Except AdminFault Unit))
    (hquiet : ∀ s, a.surroundings.Enters diary [] s (call.finish s).2)
    (hwhole : ∀ s message, (call.finish s).1 ≠ .panicked message) (stats : Option LoopStats) :
    ∃ s', step ⟨a, sch⟩ (.releasing stats call) = toChannel stats ⟨a, sch.setState s'⟩ ∧
      a.surroundings.Enters diary [] sch.state s' := by
  obtain ⟨s', hvalue, henters⟩ :=
    finishRelease_value hdiary call hquiet hwhole Provisioning.closeTimeout sch.now sch.state
  refine ⟨s', ?_, henters⟩
  unfold step
  dsimp only
  rw [hvalue]

include hpanic

/-- **An administrative client that no loop has used is told to close**, before the channel is
closed. -/
theorem toRelease_comesToChannel (hfinished : sch.Finished)
    (hcancelled : a.surroundings.cancelled sch.state = true)
    (hopen : a.surroundings.channel.isClosed sch.state = false)
    (hwhole : nanosPerMilli ∣ sch.now) {fuel : Nat} (hfuel : 6 ≤ fuel) :
    ComesToChannel { a with spareTopic? := none } diary (diary sch.state) a.spareTopic?
      (sch.now + Provisioning.closeTimeout.nanos) (goOn fuel (toRelease none ⟨a, sch⟩)) := by
  rcases hspare : a.spareTopic? with _ | spec
  · -- there is no such client
    have ha : { a with spareTopic? := none } = a := by
      rw [← hspare]
    have hstep : toRelease none ⟨a, sch⟩ = toChannel none ⟨a, sch⟩ := toRelease_of_none hspare none
    rw [hstep, ha]
    exact ⟨fuel, none, sch, by omega, rfl,
      ⟨hfinished, hcancelled, hopen, [], Prepared.worked rfl, (List.append_nil _).symm⟩, hwhole,
      Nat.le_add_right _ _⟩
  · -- it is told to close
    have hclose := hdiary.admin (.close Provisioning.closeTimeout) sch.state
    let flight := a.surroundings.admin (.close Provisioning.closeTimeout) sch.state
    let call := flight.1.await sch.now (some Provisioning.closeTimeout)
    let told := sch.setState flight.2
    let spent : Agent S H := { a with spareTopic? := none }
    have hbegin : toRelease none ⟨a, sch⟩ = (.inl (.releasing none call), ⟨spent, told⟩) :=
      toRelease_of_some hspare none
    have hready : Ready spent diary (diary sch.state) (some spec) told :=
      ⟨hfinished.setState _, hclose.cancelled.trans hcancelled, hclose.isClosed.trans hopen, _,
        Prepared.worked ⟨[], fun _ hc => absurd hc List.not_mem_nil, rfl⟩, hclose.diary⟩
    -- it is waited for
    obtain ⟨span, hwake, hle⟩ := flight.1.await_wake? sch.now Provisioning.closeTimeout
    have hdue : ∀ sch : Scheduler S H, timerAt told.now span ≤ sch.now →
        isDue ⟨spent, sch⟩ (.releasing none call) = true := fun _ hlate =>
      Call.isDue_of_wake? hwake hlate
    obtain ⟨k, sch', hk, hawait, hfinished', hstate, hnow, hnow'⟩ := await_of_finished
      (c := .releasing none call) hready.finished hwhole hwake (dvd_timerAt hwhole span)
      (le_timerAt _ _) hdue (show 3 ≤ fuel by omega)
    have hready' : Ready spent diary (diary sch.state) (some spec) sch' :=
      ⟨hfinished', hstate ▸ hready.cancelled, hstate ▸ hready.isOpen, hstate ▸ hready.made⟩
    -- and it has answered, or is given up
    obtain ⟨s', hstep, henters⟩ := step_releasing (hdiary.handOver none a.runner?) sch' call
      (hdiary.administered (.close Provisioning.closeTimeout) _)
      (hpanic.admin (.close Provisioning.closeTimeout) _) none
    have hlimit : timerAt sch.now Provisioning.closeTimeout =
        sch.now + Provisioning.closeTimeout.nanos := timerAt_of_dvd hwhole (by decide)
    refine ⟨k, none, sch'.setState s', by omega, ?_, hready'.setState henters, hnow,
      Nat.le_trans hnow' (hlimit ▸ hle)⟩
    rw [hbegin]
    exact hawait.trans (congrArg (goOn k) hstep)

end Release

/-! ### The loop that is waited for -/

/-- **A closing that has waited for the loop leaves none behind but one that is over.** -/
theorem step_joining (hdiary : a.KeepsDiary diary) {id : Nat}
    (hloop : sch.RunsOnly id a.surroundings) (deadline : Nat) :
    ∃ stats sch', step ⟨a, sch⟩ (.joining id deadline) = toRelease stats ⟨a, sch'⟩ ∧
      sch'.Finished ∧ a.surroundings.Enters diary [] sch.state sch'.state ∧ sch'.now = sch.now := by
  have hover : ∀ {result}, sch.result? id = some result → sch.Finished := fun hresult =>
    hloop.finished (Option.isSome_of_eq_some hresult)
  unfold step
  dsimp only
  rcases hresult : sch.result? id with _ | stats | message
  · -- the loop is aborted
    exact ⟨none, _, rfl, (hloop.setState _).abort, hdiary.note (.loopAborted joinTimeout) sch.state,
      rfl⟩
  · exact ⟨some stats, sch, rfl, hover hresult, .refl _ _ _, rfl⟩
  · exact ⟨none, _, rfl, (hover hresult).setState _, hdiary.note (.loopFailed message) sch.state,
      rfl⟩

/-! ### An agent whose loop runs -/

/-- The loop, which has been told to stop, has made its calls in their order, and the channel has
not been closed. -/
structure Winding (a : Agent S H) (diary : S → List ClientCall) (before : List ClientCall)
    (id : Nat) (setup : LoopSetup) (st : LoopState S) (sch : Scheduler S H) : Prop where
  runs : sch.Runs id setup a.surroundings st
  cancelled : a.surroundings.cancelled sch.state = true
  isOpen : a.surroundings.channel.isClosed sch.state = false
  made : ∃ made, st.Made setup made ∧ diary sch.state = before ++ made

section Loop

variable {id : Nat} {setup : LoopSetup} {st : LoopState S}

theorem Winding.jump (h : Winding a diary before id setup st sch) (wake : Nat) :
    Winding a diary before id setup st (sch.jump wake) where
  runs := h.runs.jump wake
  cancelled := (sch.jump_state wake).symm ▸ h.cancelled
  isOpen := (sch.jump_state wake).symm ▸ h.isOpen
  made := (sch.jump_state wake).symm ▸ h.made

/-- A loop whose only call that is left is the closing of the client has made all its calls. -/
theorem Winding.worked (h : Winding a diary before id setup st sch)
    (hlast : st.HasEnded ∨ ∃ call, st.phase = .releasing call) :
    ∃ made, Worked setup.topic? made ∧ diary sch.state = before ++ made := by
  obtain ⟨made, hmade, hdiary⟩ := h.made
  unfold LoopState.Made at hmade
  refine ⟨made, ?_, hdiary⟩
  rcases hlast with hended | ⟨call, hphase⟩
  · rcases hasEnded_iff.mp hended with hphase | ⟨message, hphase⟩ <;> rw [hphase] at hmade
    · exact hmade
    · exact hmade
  · rw [hphase] at hmade
    exact Prepared.worked hmade

variable (hdiary : a.KeepsDiary diary) (hpanic : a.surroundings.NoPanic)

include hdiary

/-- In a round of turns the loop comes to rest, and goes on with its calls in their order. -/
theorem Winding.round (h : Winding a diary before id setup st sch)
    (hpanic : a.surroundings.NoPanic) {fuel : Nat} (hfuel : 12 < fuel) :
    ∃ st', Winding a diary before id setup st' (sch.round fuel) ∧ (sch.round fuel).queue = [] ∧
      (sch.round fuel).now = sch.now := by
  obtain ⟨made, hmade, hbefore⟩ := h.made
  obtain ⟨st₁, -, hruns, hqueue, hnow, hcancelled⟩ :=
    h.runs.round hdiary.toKeepsDiary.keepsStop h.cancelled hfuel
  obtain ⟨st', more, hruns', henters, hmade'⟩ :=
    h.runs.round_made hdiary.toKeepsDiary hpanic fuel hmade
  refine ⟨st', ⟨hruns', hcancelled, henters.isClosed.trans h.isOpen, _, hmade', ?_⟩, hqueue, hnow⟩
  rw [henters.diary, hbefore, List.append_assoc]

/-- When the loop has made all its calls, only the channel is left to be closed, whether the closing
finds that the loop is over or has no more patience with it. -/
theorem Winding.step_joining (h : Winding a diary before id setup st sch)
    (hlast : st.HasEnded ∨ ∃ call, st.phase = .releasing call) (deadline : Nat) :
    ∃ stats sch', step ⟨a, sch⟩ (.joining id deadline) = toRelease stats ⟨a, sch'⟩ ∧
      Ready a diary before setup.topic? sch' ∧ sch'.now = sch.now := by
  obtain ⟨made, hmade, hbefore⟩ := h.worked hlast
  obtain ⟨stats, sch', hstep, hfinished, henters, hnow⟩ :=
    Closing.step_joining hdiary (.inr ⟨setup, st, h.runs⟩) deadline
  exact ⟨stats, sch', hstep, ⟨hfinished, henters.cancelled.trans h.cancelled,
    henters.isClosed.trans h.isOpen, made, hmade,
    henters.diary.trans ((List.append_nil _).trans hbefore)⟩, hnow⟩

/-! #### Waiting for the loop -/

variable {deadline : Nat}

omit hdiary in
/-- A closing that still has patience goes on only when the loop is over. -/
theorem Winding.isDue_iff (h : Winding a diary before id setup st sch) :
    isDue ⟨a, sch⟩ (.joining id deadline) = true ↔ st.HasEnded ∨ deadline ≤ sch.now := by
  unfold isDue
  dsimp only
  rw [Bool.or_eq_true, h.runs.isSome_result?, decide_eq_true_iff]

theorem Winding.comesToChannel_of_hasEnded (h : Winding a diary before id setup st sch)
    (hspare : a.spareTopic? = none) (hended : st.HasEnded) (hnow : nanosPerMilli ∣ sch.now)
    (hle : sch.now ≤ deadline) {fuel : Nat} (hfuel : 4 ≤ fuel) :
    ComesToChannel a diary before setup.topic? deadline
      (await fuel (.joining id deadline) ⟨a, sch⟩) := by
  obtain ⟨fuel, rfl⟩ : ∃ k, fuel = k + 1 := ⟨fuel - 1, by omega⟩
  obtain ⟨stats, sch', hstep, hready, hsame⟩ := h.step_joining hdiary (.inl hended) deadline
  refine ⟨fuel, stats, sch', by omega, ?_, hready, hsame ▸ hnow, hsame ▸ hle⟩
  have hon : toRelease stats ⟨a, sch'⟩ = toChannel stats ⟨a, sch'⟩ := toRelease_of_none hspare stats
  rw [await_of_isDue fuel (h.isDue_iff.mpr (.inl hended)), hstep, hon]

theorem Winding.comesToChannel_of_deadline (h : Winding a diary before id setup st sch)
    (hspare : a.spareTopic? = none) {call : Call S (Except AdminFault Unit)}
    (hphase : st.phase = .releasing call) (hnow : nanosPerMilli ∣ sch.now)
    (hdeadline : sch.now = deadline) {fuel : Nat} (hfuel : 4 ≤ fuel) :
    ComesToChannel a diary before setup.topic? deadline
      (await fuel (.joining id deadline) ⟨a, sch⟩) := by
  obtain ⟨fuel, rfl⟩ : ∃ k, fuel = k + 1 := ⟨fuel - 1, by omega⟩
  obtain ⟨stats, sch', hstep, hready, hsame⟩ :=
    h.step_joining hdiary (.inr ⟨call, hphase⟩) deadline
  refine ⟨fuel, stats, sch', by omega, ?_, hready, hsame ▸ hnow,
    Nat.le_of_eq (hsame.trans hdeadline)⟩
  have hon : toRelease stats ⟨a, sch'⟩ = toChannel stats ⟨a, sch'⟩ := toRelease_of_none hspare stats
  have hdue := h.isDue_iff.mpr (.inr (Nat.le_of_eq hdeadline.symm))
  rw [await_of_isDue fuel hdue, hstep, hon]

include hpanic

/-- The release is over before the closing has lost its patience, and the loop exits. -/
theorem Winding.comesToChannel_of_release (h : Winding a diary before id setup st sch)
    (hspare : a.spareTopic? = none) {call : Call S (Except AdminFault Unit)}
    (hphase : st.phase = .releasing call) (hdue : call.isDue sch.now = true)
    (hnow : nanosPerMilli ∣ sch.now) (hearly : sch.now < deadline) {fuel : Nat}
    (hfuel : 14 ≤ fuel) :
    ComesToChannel a diary before setup.topic? deadline
      (await fuel (.joining id deadline) ⟨a, sch⟩) := by
  obtain ⟨fuel, rfl⟩ : ∃ k, fuel = k + 1 := ⟨fuel - 1, by omega⟩
  have hqueue : sch.queue ≠ [] := by
    intro hnil
    have hrest := (h.runs.of_queue_nil hnil).1
    unfold LoopState.isDue at hrest
    rw [hphase] at hrest
    exact absurd hdue (Bool.eq_false_iff.mp hrest)
  have hwaits : ¬ isDue ⟨a, sch⟩ (.joining id deadline) = true := by
    rw [h.isDue_iff]
    unfold LoopState.HasEnded
    rw [hphase]
    rintro (hended | hlate)
    · exact hended
    · omega
  obtain ⟨st', hround, hempty, hsame⟩ := h.round hdiary hpanic (show 12 < fuel by omega)
  have hexits := h.runs.round_of_releasing hdiary.toKeepsDiary.keepsStop hpanic h.cancelled hphase
    hdue (show 1 < fuel by omega)
  obtain rfl := hround.runs.unique hexits
  have hwait : await (fuel + 1) (.joining id deadline) ⟨a, sch⟩ =
      await fuel (.joining id deadline) ⟨a, sch.round fuel⟩ :=
    await_of_queue fuel (Bool.eq_false_iff.mpr hwaits) hqueue
  rw [hwait]
  exact hround.comesToChannel_of_hasEnded hdiary hspare trivial (hsame ▸ hnow)
    (hsame ▸ Nat.le_of_lt hearly) (by omega)

omit hdiary hpanic in
/-- A release that is waited for has a timer, and this ends before the closing has lost its patience
or at the same instant. -/
theorem Winding.release_wake (h : Winding a diary before id setup st sch)
    {call : Call S (Except AdminFault Unit)} (hphase : st.phase = .releasing call)
    (hwaits : call.isDue sch.now = false) :
    ∃ wake, call.wake? = some wake ∧ sch.now < wake ∧ wake ≤ timerAt sch.now joinTimeout ∧
      nanosPerMilli ∣ wake := by
  obtain ⟨s₀, history, hcourse⟩ := h.runs.course
  obtain ⟨made, s₁, span, hmade, -, hwake, hle⟩ := releasing_wake hcourse.awaits hphase
  rw [closeTimeout_eq_joinTimeout] at hle
  have hlate : sch.now < timerAt made span := by
    refine Nat.lt_of_not_le fun hover => ?_
    rw [Call.isDue_of_wake? hwake hover] at hwaits
    cases hwaits
  have hlater : timerAt made span ≠ made := by omega
  obtain ⟨ms, hms⟩ := timerAt_of_ne hlater
  exact ⟨timerAt made span, hwake, hlate, hle, ms, hms.trans (Nat.mul_comm _ _)⟩

/-- A loop at rest is over, or its release is waited for until it is over or the closing has lost
its patience. -/
theorem Winding.comesToChannel_of_queue_nil (h : Winding a diary before id setup st sch)
    (hspare : a.spareTopic? = none) (hqueue : sch.queue = []) (hnow : nanosPerMilli ∣ sch.now)
    (hdeadline : deadline = timerAt sch.now joinTimeout) {fuel : Nat} (hfuel : 15 ≤ fuel) :
    ComesToChannel a diary before setup.topic? deadline
      (await fuel (.joining id deadline) ⟨a, sch⟩) := by
  have hearly : sch.now < deadline := hdeadline ▸ lt_timerAt _ (by decide)
  obtain ⟨hrest, htimer⟩ := h.runs.of_queue_nil hqueue
  have hover : st.HasEnded → ComesToChannel a diary before setup.topic? deadline
      (await fuel (.joining id deadline) ⟨a, sch⟩) := fun hended =>
    h.comesToChannel_of_hasEnded hdiary hspare hended hnow (Nat.le_of_lt hearly) (by omega)
  rcases rests h.cancelled hrest with hphase | ⟨message, hphase⟩ | ⟨call, hphase, hwaits⟩
  · exact hover (hasEnded_iff.mpr (.inl hphase))
  · exact hover (hasEnded_iff.mpr (.inr ⟨message, hphase⟩))
  · obtain ⟨fuel, rfl⟩ : ∃ k, fuel = k + 1 := ⟨fuel - 1, by omega⟩
    obtain ⟨wake, hwake, hlate, hle, hwhole⟩ := h.release_wake hphase hwaits
    rw [← hdeadline] at hle
    have hpatient : ¬ isDue ⟨a, sch⟩ (.joining id deadline) = true := by
      rw [h.isDue_iff]
      unfold LoopState.HasEnded
      rw [hphase]
      rintro (hended | hlate)
      · exact hended
      · omega
    have hnext : Call.earlier (Closing.wake? (S := S) (.joining id deadline)) sch.wake? =
        some wake := by
      have hloop : sch.wake? = call.wake? := by
        rw [htimer]
        unfold LoopState.wake?
        rw [hphase]
      rw [hloop, hwake]
      exact congrArg some (Nat.min_eq_right hle)
    -- time goes on to the timer of the release
    have hjump : (sch.jump wake).now = wake := jumpTo_of_dvd hnow (Nat.le_of_lt hlate)
    have hjumped := h.jump wake
    have hwait : await (fuel + 1) (.joining id deadline) ⟨a, sch⟩ =
        await fuel (.joining id deadline) ⟨a, sch.jump wake⟩ :=
      await_of_wake fuel (Bool.eq_false_iff.mpr hpatient) hqueue hnext
    rw [hwait]
    rcases Nat.lt_or_eq_of_le hle with hlt | heq
    · exact hjumped.comesToChannel_of_release hdiary hpanic hspare hphase
        (Call.isDue_of_wake? hwake (Nat.le_of_eq hjump.symm)) (hjump.symm ▸ hwhole)
        (hjump.symm ▸ hlt) (by omega)
    · exact hjumped.comesToChannel_of_deadline hdiary hspare hphase (hjump.symm ▸ hwhole)
        (hjump.trans heq) (by omega)

/-- **The closing of an agent whose loop runs comes to the channel** when the loop is over, or has
been aborted, within the time limit for this. -/
theorem Winding.comesToChannel (h : Winding a diary before id setup st sch)
    (hspare : a.spareTopic? = none) (hnow : nanosPerMilli ∣ sch.now) {fuel : Nat}
    (hfuel : 16 ≤ fuel) :
    ComesToChannel a diary before setup.topic? (timerAt sch.now joinTimeout)
      (await fuel (.joining id (timerAt sch.now joinTimeout)) ⟨a, sch⟩) := by
  have hearly : sch.now < timerAt sch.now joinTimeout := lt_timerAt _ (by decide)
  by_cases hdue : isDue ⟨a, sch⟩ (.joining id (timerAt sch.now joinTimeout)) = true
  · refine h.comesToChannel_of_hasEnded hdiary hspare ?_ hnow (Nat.le_of_lt hearly) (by omega)
    rcases h.isDue_iff.mp hdue with hended | hlate
    · exact hended
    · omega
  · by_cases hqueue : sch.queue = []
    · exact h.comesToChannel_of_queue_nil hdiary hpanic hspare hqueue hnow rfl (by omega)
    · obtain ⟨fuel, rfl⟩ : ∃ k, fuel = k + 1 := ⟨fuel - 1, by omega⟩
      obtain ⟨st', hround, hempty, hsame⟩ := h.round hdiary hpanic (show 12 < fuel by omega)
      have hwait : await (fuel + 1) (.joining id (timerAt sch.now joinTimeout)) ⟨a, sch⟩ =
          await fuel (.joining id (timerAt sch.now joinTimeout)) ⟨a, sch.round fuel⟩ :=
        await_of_queue fuel (Bool.eq_false_iff.mpr hdue) hqueue
      rw [hwait]
      exact hround.comesToChannel_of_queue_nil hdiary hpanic hspare hempty (hsame.symm ▸ hnow)
        (by rw [hsame]) (by omega)

end Loop

end Closing

end MetricFeed
