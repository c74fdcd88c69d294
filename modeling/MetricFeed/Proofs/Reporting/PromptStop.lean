/-
MetricFeed/Proofs/Reporting/PromptStop.lean

How soon a reporting loop ends when it is told to stop.  The request may come at any point of its
course: while the topic is provisioned or the administrative client released, during a pass, during
a flush, or while the loop sleeps.

A pass during which it comes is gone through to its end, and the producer is asked to flush once
more (`Tick.Flushed`).  From then on (`Stopped`) the loop takes its steps at the instant of the
request, while others may act between them; time goes on only when the loop waits, and no further
than to its timer.  Steps that begin a pass or a flush are not among them, and each leaves fewer to
be taken (`step_stepsLeft`), so all that can keep the loop is the release of the administrative
client.

Main result (`Course.prompt_stop`): the loop ends at the instant of the request, or, if it has a
client to release, before the time limit of the release is over.
-/
import MetricFeed.Proofs.Reporting.Stopping

namespace MetricFeed

variable {S H : Type}

/-! ### The pass during which the request comes -/

/-- The state in which a pass leaves the surroundings once its end has been noted. -/
def Tick.settled (setup : LoopSetup) (sur : Surroundings S H) (t : Tick S) : S :=
  (LoopState.passNotices t.nowMs (t.outcome setup sur)).foldl (fun s n => sur.note n s)
    (t.final setup sur).state

/-- A step from `st` has gone through the whole pass `t`, and then the producer has been asked to
flush, whatever has been requested during the pass. -/
structure Tick.Flushed (setup : LoopSetup) (sur : Surroundings S H) (now : Nat) (t : Tick S)
    (st st' : LoopState S) (s' : S) : Prop where
  stats : st'.stats = t.count setup sur st.stats
  state : s' = (sur.channel.producer.flush (t.settled setup sur)).2
  phase : st'.phase = .flushing t.nowMs
    ((sur.channel.producer.flush (t.settled setup sur)).1.await now none)
  /-- A flush that takes no time is completed, also after a request to stop. -/
  completed : (sur.channel.producer.flush (t.settled setup sur)).1.delay = some ⟨0⟩ →
    ∀ s₁ answer s₂,
      (sur.channel.producer.flush (t.settled setup sur)).1.finish s₁ = (.value answer, s₂) →
      st'.isDue sur now s₁ = true ∧
      st'.event? setup sur now s₁ = some (.summary t.nowMs
        ((LoopState.flushNotices (sur.cancelled s₂) answer).foldl (fun s n => sur.note n s) s₂))

section Passes

variable {setup : LoopSetup} {sur : Surroundings S H} {now : Nat} {st : LoopState S} {s : S}

/-- A flush that takes no time is answered at the instant at which it is asked for. -/
theorem isAnswered_await {α : Type} {f : Flight S α} (h : f.delay = some ⟨0⟩)
    (timeout : Option Duration) : (f.await now timeout).isAnswered now = true := by
  unfold Flight.await Call.isAnswered
  rw [h]
  simp [timerAt]

theorem flushed_of_phase {t : Tick S} {st' : LoopState S}
    (hstats : st'.stats = t.count setup sur st.stats)
    (hphase : st'.phase = .flushing t.nowMs
      ((sur.channel.producer.flush (t.settled setup sur)).1.await now none)) :
    t.Flushed setup sur now st st' (sur.channel.producer.flush (t.settled setup sur)).2 where
  stats := hstats
  state := rfl
  phase := hphase
  completed hdelay s₁ answer s₂ hfinish := by
    have hanswered : ((sur.channel.producer.flush (t.settled setup sur)).1.await now
        none).isAnswered now = true := isAnswered_await hdelay none
    have hfinish' : ((sur.channel.producer.flush (t.settled setup sur)).1.await now
        none).finish s₁ = (.value answer, s₂) := hfinish
    unfold LoopState.isDue LoopState.event?
    rw [hphase]
    dsimp only
    rw [if_pos hanswered, hfinish', Call.isDue, hanswered, Bool.true_or, Bool.or_true]
    exact ⟨rfl, rfl⟩

/-- An iteration that begins with a pass goes on with a flush. -/
theorem iterate_flushed {t : Tick S} (h : st.passAt? setup sur now s = some t) :
    t.Flushed setup sur now st (st.iterate setup sur now s).1 (st.iterate setup sur now s).2 := by
  unfold LoopState.passAt? at h
  unfold LoopState.iterate
  by_cases hc : sur.cancelled s = true
  · rw [if_pos hc] at h
    cases h
  · rw [if_neg hc] at h ⊢
    rcases hclock : setup.clock.nowMs? now with _ | nowMs
    · rw [hclock] at h
      cases h
    · rw [hclock] at h
      dsimp only at h ⊢
      by_cases hd : st.passDue setup nowMs = true
      · rw [if_pos hd] at h ⊢
        cases h
        rw [runPass_eq]
        exact flushed_of_phase rfl rfl
      · rw [if_neg hd] at h
        cases h

/-- **A step that makes a pass goes through all of it and then has the producer flush.** -/
theorem step_flushed {t : Tick S} (h : st.event? setup sur now s = some (.tick t)) :
    t.Flushed setup sur now st (st.step setup sur now s).1 (st.step setup sur now s).2 := by
  unfold LoopState.event? at h
  unfold LoopState.step
  revert h
  rcases st.phase with _ | ⟨spec, p⟩ | call | ⟨nowMs, call⟩ | wake | _ | message
  · -- starting
    rcases setup.topic? with _ | spec
    · intro h
      obtain ⟨t', ht, ⟨⟩⟩ := Option.map_eq_some_iff.mp h
      exact iterate_flushed ht
    · rintro ⟨⟩
  · rintro ⟨⟩
  · -- releasing
    dsimp only
    rcases Provisioning.finishRelease sur.note Provisioning.closeTimeout now call s with
      ⟨_ | message, s'⟩
    · intro h
      obtain ⟨t', ht, ⟨⟩⟩ := Option.map_eq_some_iff.mp h
      exact iterate_flushed ht
    · rintro ⟨⟩
  · -- flushing: the event is an account
    dsimp only
    by_cases ha : call.isAnswered now = true
    · rw [if_pos ha]
      rcases call.finish s with ⟨answer | message, s'⟩ <;> rintro ⟨⟩
    · rw [if_neg ha]
      rintro ⟨⟩
  · -- sleeping
    intro h
    obtain ⟨t', ht, ⟨⟩⟩ := Option.map_eq_some_iff.mp h
    exact iterate_flushed ht
  · rintro ⟨⟩
  · rintro ⟨⟩

end Passes

/-! ### After the request -/

/-- The loop is over. -/
def LoopState.HasEnded (st : LoopState S) : Prop :=
  match st.phase with
  | .exited | .crashed _ => True
  | .starting | .provisioning _ _ | .releasing _ | .flushing _ _ | .sleeping _ => False

/-- How a loop goes on that is told to stop at the instant `asked`: the present instant, the count of
the steps that it has taken since, their events, the loop, and the state of the surroundings.  Time
goes on only when the loop is not due, and then no further than to its timer. -/
inductive Stopped (setup : LoopSetup) (sur : Surroundings S H) (others : S → S → Prop)
    (asked : Nat) (st₀ : LoopState S) (s₀ : S) :
    Nat → Nat → List (LoopEvent S) → LoopState S → S → Prop
  | told : Stopped setup sur others asked st₀ s₀ asked 0 [] st₀ s₀
  | wait {now later n : Nat} {events : List (LoopEvent S)} {st : LoopState S} {s s' : S} :
    Stopped setup sur others asked st₀ s₀ now n events st s → now ≤ later →
    (now < later → st.isDue sur now s = false ∧ ∀ wake ∈ st.wake?, later ≤ wake) →
    others s s' → Stopped setup sur others asked st₀ s₀ later n events st s'
  | step {now n : Nat} {events : List (LoopEvent S)} {st : LoopState S} {s : S} :
    Stopped setup sur others asked st₀ s₀ now n events st s → st.isDue sur now s = true →
    Stopped setup sur others asked st₀ s₀ now (n + 1)
      ((st.event? setup sur now s).toList ++ events) (st.step setup sur now s).1
      (st.step setup sur now s).2

/-- The loop has come this far without delay. -/
structure Stopped.Prompt (setup : LoopSetup) (sur : Surroundings S H) (others : S → S → Prop)
    (asked : Nat) (st₀ : LoopState S) (s₀ : S) (now n : Nat) (events : List (LoopEvent S))
    (st : LoopState S) (s : S) : Prop where
  noPass : ticksOf events = []
  /-- The only flush that is waited for is the one in progress at the request. -/
  noFlush : ∀ nowMs call, st.phase = .flushing nowMs call → n = 0 ∧ st = st₀
  steps : n + st.stepsLeft setup ≤ 12
  /-- The loop is where it was at the request or after it at the same instant, unless it waits for
  the release of the administrative client. -/
  going : ¬ st.HasEnded → now = asked ∨
    ∃ call, st.phase = .releasing call ∧ now ≤ timerAt asked Provisioning.closeTimeout
  /-- When the loop waits, then for this release; after it the loop exits. -/
  waits : ¬ st.HasEnded → st.isDue sur now s = false →
    ∃ wake, st.wake? = some wake ∧ now < wake ∧ wake ≤ timerAt asked Provisioning.closeTimeout ∧
      ∀ s₁, sur.cancelled s₁ = true → st.isDue sur wake s₁ = true ∧
        (st.step setup sur wake s₁).1 = { st with phase := .exited }
  /-- Without a client to release there is nothing to wait for. -/
  released : st₀.HasReleased setup → ∀ call, st.phase ≠ .releasing call
  /-- A loop that is over has been so since the instant of the request, or since the release. -/
  ended : st.HasEnded → ∃ moment s₁,
    Stopped setup sur others asked st₀ s₀ moment n events st s₁ ∧ moment ≤ now ∧
      moment ≤ timerAt asked Provisioning.closeTimeout ∧
      (st₀.HasReleased setup → moment = asked)
  /-- It exits in order, unless its clock has run out. -/
  crashed : ∀ message, st.phase = .crashed message →
    message = Clock.runOut ∧ ∃ moment, moment ≤ now ∧ setup.clock.nowMs? moment = none

section Stops

variable {setup : LoopSetup} {sur : Surroundings S H} {others : S → S → Prop} {asked : Nat}
variable {st₀ : LoopState S} {c₀ s₀ : S} {history : List (LoopEvent S)}
variable {now n : Nat} {events : List (LoopEvent S)} {st : LoopState S} {s : S}

/-- A loop that has been told to stop waits for no other flush. -/
theorem Stride.makes_no_flush {e? : Option (LoopEvent S)} {st' : LoopState S} {s' : S}
    (h : Stride setup sur (fun s s' => sur.cancelled s = true → sur.cancelled s' = true) now st s
      e? st' s') (hcancelled : sur.cancelled s = true) (nowMs : Int64)
    (call : Call S (Except PublishFault Unit)) : st'.phase ≠ .flushing nowMs call := by
  intro hphase
  cases h with
  | provisions _ _ hprovisioned _ =>
    rcases isProvisioned_iff.mp hprovisioned with ⟨spec, p, h⟩ | ⟨call', h⟩
    · rw [h] at hphase
      cases hphase
    · rw [h] at hphase
      cases hphase
  | begins _ _ hR hgo _ _ _ =>
    rw [hR hcancelled] at hgo
    cases hgo
  | ends _ _ hended _ =>
    rw [hended] at hphase
    cases hphase
  | exits _ _ _ => cases hphase
  | crashes _ hcrashed _ =>
    rw [hcrashed] at hphase
    cases hphase
  | runsOut _ _ hcrashed _ _ =>
    rw [hcrashed] at hphase
    cases hphase

theorem hasEnded_iff :
    st.HasEnded ↔ st.phase = .exited ∨ ∃ message, st.phase = .crashed message := by
  unfold LoopState.HasEnded
  rcases st.phase with _ | _ | _ | _ | _ | _ | _ <;> simp

/-- A loop that is over does not go on. -/
theorem isDue_of_hasEnded (h : st.HasEnded) : st.isDue sur now s = false := by
  unfold LoopState.isDue
  rcases hasEnded_iff.mp h with hphase | ⟨message, hphase⟩
  · rw [hphase]
  · rw [hphase]

/-- The loop is over, or no time has passed since the request, or the loop waits for the release of
the administrative client, whose timer goes off in time. -/
def LoopState.InTime (asked now : Nat) (st : LoopState S) : Prop :=
  st.HasEnded ∨ now = asked ∨ ∃ call wake, st.phase = .releasing call ∧ call.wake? = some wake ∧
    now ≤ wake ∧ wake ≤ timerAt asked Provisioning.closeTimeout

/-- What happens after the request belongs to the course of the loop. -/
theorem Stopped.course (hcourse : Course setup sur others c₀ asked history st₀ s₀)
    (h : Stopped setup sur others asked st₀ s₀ now n events st s) :
    Course setup sur others c₀ now (events ++ history) st s := by
  induction h with
  | told => exact hcourse
  | wait _ hle _ ho ih => exact ih.wait hle ho
  | step _ hdue ih =>
    rw [List.append_assoc]
    exact ih.step hdue

/-- What a loop relies on that is told to stop: the request stands, and no client panics. -/
structure Surroundings.Stopping (sur : Surroundings S H) (others : S → S → Prop) : Prop where
  keepsStop : sur.KeepsStop
  others : ∀ s s', others s s' → sur.cancelled s = true → sur.cancelled s' = true
  noPanic : sur.NoPanic

section Run

variable (hstop : sur.Stopping others)
variable (hcourse : Course setup sur others c₀ asked history st₀ s₀)
variable (hcancelled : sur.cancelled s₀ = true)
variable (h : Stopped setup sur others asked st₀ s₀ now n events st s)

include hstop hcourse hcancelled h

theorem Stopped.cancelled : sur.cancelled s = true := by
  induction h with
  | told => exact hcancelled
  | wait _ _ _ ho ih => exact hstop.others _ _ ho ih
  | step h hdue ih => exact step_cancelled hstop.keepsStop (h.course hcourse).awaits ih hdue

omit hcancelled in
/-- Each step after the request is one of a loop that has been told to stop. -/
theorem Stopped.strides (hdue : st.isDue sur now s = true) :
    Stride setup sur (fun s s' => sur.cancelled s = true → sur.cancelled s' = true) now st s
      (st.event? setup sur now s) (st.step setup sur now s).1 (st.step setup sur now s).2 :=
  step_strides hstop.keepsStop.idle ((h.course hcourse).callWithin hstop.keepsStop.idle) hdue

theorem Stopped.noPass : ticksOf events = [] := by
  induction h with
  | told => rfl
  | wait _ _ _ _ ih => exact ih
  | step h hdue ih =>
    have hnone := (h.strides hstop hcourse hdue).makes_no_pass
      (h.cancelled hstop hcourse hcancelled)
    rw [ticksOf_event, hnone, ih]
    rfl

theorem Stopped.noFlush (nowMs : Int64) (call : Call S (Except PublishFault Unit))
    (hphase : st.phase = .flushing nowMs call) : n = 0 ∧ st = st₀ := by
  induction h with
  | told => exact ⟨rfl, rfl⟩
  | wait _ _ _ _ ih => exact ih hphase
  | step h hdue _ =>
    exact absurd hphase ((h.strides hstop hcourse hdue).makes_no_flush
      (h.cancelled hstop hcourse hcancelled) nowMs call)

/-- The steps that have been taken and those that are left are no more than there were to take. -/
theorem Stopped.stepsLeft : n + st.stepsLeft setup ≤ st₀.stepsLeft setup := by
  induction h with
  | told => exact Nat.le_of_eq (Nat.zero_add _)
  | wait _ _ _ _ ih => exact ih
  | step h hdue ih =>
    have hlt := step_stepsLeft hstop.keepsStop (h.course hcourse).awaits
      (h.cancelled hstop hcourse hcancelled) hdue
    omega

theorem Stopped.comesTo : st₀.ComesTo setup st := by
  induction h with
  | told => exact .refl st₀
  | wait _ _ _ _ ih => exact ih
  | step h hdue ih =>
    exact ih.trans (step_comesTo hstop.keepsStop (h.course hcourse).awaits
      (h.cancelled hstop hcourse hcancelled) hdue)

/-- The step of a loop that has waited for the release of the client is its last. -/
theorem Stopped.ends_of_releasing {call : Call S (Except AdminFault Unit)}
    (hphase : st.phase = .releasing call) : (st.step setup sur now s).1.HasEnded := by
  rw [releasing_step hstop.keepsStop hstop.noPanic (h.course hcourse).awaits
    (h.cancelled hstop hcourse hcancelled) hphase]
  trivial

theorem Stopped.inTime : st.InTime asked now := by
  induction h with
  | told => exact .inr (.inl rfl)
  | @wait now later n events st s s' h hle htime ho ih =>
    rcases Nat.eq_or_lt_of_le hle with rfl | hlt
    · exact ih
    · -- time goes on, so the loop is over or waits for the release
      obtain ⟨hrest, hwakes⟩ := htime hlt
      rcases rests (h.cancelled hstop hcourse hcancelled) hrest with
        hphase | ⟨message, hphase⟩ | ⟨call, hphase, -⟩
      · exact .inl (hasEnded_iff.mpr (.inl hphase))
      · exact .inl (hasEnded_iff.mpr (.inr ⟨message, hphase⟩))
      · obtain ⟨made, s₁, span, -, -, hwake, hbound⟩ :=
          releasing_wake (h.course hcourse).awaits hphase
        have hlater : later ≤ timerAt made span := by
          refine hwakes _ ?_
          unfold LoopState.wake?
          rw [hphase]
          exact hwake
        refine .inr (.inr ⟨call, _, hphase, hwake, hlater, ?_⟩)
        rcases ih with hended | rfl | ⟨call', wake', hphase', hwake', -, hbound'⟩
        · unfold LoopState.HasEnded at hended
          rw [hphase] at hended
          exact hended.elim
        · exact hbound
        · rw [hphase] at hphase'
          cases hphase'
          rw [hwake] at hwake'
          cases hwake'
          exact hbound'
  | step h hdue ih =>
    rcases ih with hended | rfl | ⟨call, wake, hphase, -⟩
    · rw [isDue_of_hasEnded hended] at hdue
      cases hdue
    · exact .inr (.inl rfl)
    · exact .inl (h.ends_of_releasing hstop hcourse hcancelled hphase)

/-- A loop that is over has been so since the instant of the request or, if it had a client to
release, since the release. -/
theorem Stopped.ended (hended : st.HasEnded) :
    ∃ moment s₁, Stopped setup sur others asked st₀ s₀ moment n events st s₁ ∧ moment ≤ now ∧
      moment ≤ timerAt asked Provisioning.closeTimeout ∧
      (st₀.HasReleased setup → moment = asked) := by
  induction h with
  | told => exact ⟨asked, s₀, .told, Nat.le_refl _, le_timerAt _ _, fun _ => rfl⟩
  | wait _ hle _ _ ih =>
    obtain ⟨moment, s₁, hstopped, hmoment, hrest⟩ := ih hended
    exact ⟨moment, s₁, hstopped, Nat.le_trans hmoment hle, hrest⟩
  | @step now n events st s h hdue _ =>
    -- this step is the one that has ended the loop
    refine ⟨now, _, h.step hdue, Nat.le_refl _, ?_⟩
    rcases h.inTime hstop hcourse hcancelled with hover | rfl | ⟨call, wake, hphase, -, hle, hbound⟩
    · rw [isDue_of_hasEnded hover] at hdue
      cases hdue
    · exact ⟨le_timerAt _ _, fun _ => rfl⟩
    · refine ⟨Nat.le_trans hle hbound, fun hreleased => ?_⟩
      exact absurd hphase ((h.comesTo hstop hcourse hcancelled).ne_releasing hreleased call)

/-- A loop that waits, waits for the release of the client, and exits after it. -/
theorem Stopped.waits (hgoing : ¬ st.HasEnded) (hrest : st.isDue sur now s = false) :
    ∃ wake, st.wake? = some wake ∧ now < wake ∧ wake ≤ timerAt asked Provisioning.closeTimeout ∧
      ∀ s₁, sur.cancelled s₁ = true → st.isDue sur wake s₁ = true ∧
        (st.step setup sur wake s₁).1 = { st with phase := .exited } := by
  have hawaits := (h.course hcourse).awaits
  rcases rests (h.cancelled hstop hcourse hcancelled) hrest with
    hphase | ⟨message, hphase⟩ | ⟨call, hphase, hwaits⟩
  · exact absurd (hasEnded_iff.mpr (.inl hphase)) hgoing
  · exact absurd (hasEnded_iff.mpr (.inr ⟨message, hphase⟩)) hgoing
  · obtain ⟨made, s₁, span, hmade, hcall, hwake, hbound⟩ := releasing_wake hawaits hphase
    have hlate : now < timerAt made span := by
      refine Nat.lt_of_not_le fun hle => ?_
      rw [Call.isDue_of_wake? hwake hle] at hwaits
      cases hwaits
    refine ⟨_, ?_, hlate, ?_, ?_⟩
    · unfold LoopState.wake?
      rw [hphase]
      exact hwake
    · rcases h.inTime hstop hcourse hcancelled with
        hended | rfl | ⟨call', wake', hphase', hwake', -, hbound'⟩
      · exact absurd hended hgoing
      · exact hbound
      · rw [hphase] at hphase'
        cases hphase'
        rw [hwake] at hwake'
        cases hwake'
        exact hbound'
    · intro s₂ hcancelled₂
      refine ⟨?_, releasing_step hstop.keepsStop hstop.noPanic (hawaits.later (Nat.le_of_lt hlate))
        hcancelled₂ hphase⟩
      unfold LoopState.isDue
      rw [hphase]
      exact Call.isDue_of_wake? hwake (Nat.le_refl _)

/-- After the request, the loop goes on without delay. -/
theorem Stopped.prompt : Stopped.Prompt setup sur others asked st₀ s₀ now n events st s where
  noPass := h.noPass hstop hcourse hcancelled
  noFlush := h.noFlush hstop hcourse hcancelled
  steps := Nat.le_trans (h.stepsLeft hstop hcourse hcancelled) (stepsLeft_le setup st₀)
  going hgoing := by
    rcases h.inTime hstop hcourse hcancelled with hended | hnow | ⟨call, wake, hphase, -, hle, hbound⟩
    · exact absurd hended hgoing
    · exact .inl hnow
    · exact .inr ⟨call, hphase, Nat.le_trans hle hbound⟩
  waits := h.waits hstop hcourse hcancelled
  released := (h.comesTo hstop hcourse hcancelled).ne_releasing
  ended := h.ended hstop hcourse hcancelled
  crashed _ := (h.course hcourse).crashed_for_want_of_time hstop.noPanic

end Run

/-- **A loop stops promptly.**  Whatever its collaborators do, they may fail, keep silent, or panic
within passes, and whenever the request to stop comes:

* a pass is always gone through to its end, and then the producer is asked to flush, which is
  completed if it takes no time;
* after the request no pass and no flush begins, and the loop takes a few steps at the instant of
  the request; it waits for nothing but the release of the administrative client, if there is one
  to release, and then exits;
* so it ends at this very instant, or at the latest when the time limit of the release is over.

Only a clock that has run out makes it end in a panic instead. -/
theorem Course.prompt_stop (hstop : sur.Stopping others)
    (hcourse : Course setup sur others c₀ asked history st₀ s₀) :
    (∀ t, st₀.event? setup sur asked s₀ = some (.tick t) →
      t.Flushed setup sur asked st₀ (st₀.step setup sur asked s₀).1
        (st₀.step setup sur asked s₀).2) ∧
    (sur.cancelled s₀ = true → ∀ now n events st s,
      Stopped setup sur others asked st₀ s₀ now n events st s →
      Stopped.Prompt setup sur others asked st₀ s₀ now n events st s) ∧
    (nanosPerMilli ∣ asked →
      timerAt asked Provisioning.closeTimeout = asked + Provisioning.closeTimeout.nanos) := by
  refine ⟨fun t => step_flushed, fun hcancelled now n events st s h => ?_, fun hwhole => ?_⟩
  · exact h.prompt hstop hcourse hcancelled
  · exact timerAt_of_dvd hwhole (by decide)

end Stops

/-! ### A flush that is never answered -/

/-- Surroundings whose state is the request to stop, and whose producer never answers a flush. -/
def Surroundings.unflushing : Surroundings Bool Empty :=
  { Surroundings.quiet Bool with
    cancelled := id
    channel :=
      { (Surroundings.quiet Bool).channel with
        producer :=
          { (Surroundings.quiet Bool).channel.producer with
            flush := fun s => (.never fun s => (.value (.ok ()), s), s) } } }

/-- Nobody takes the request to stop back. -/
def Standing (s s' : Bool) : Prop := s = true → s' = true

theorem Surroundings.stopping_unflushing : Surroundings.unflushing.Stopping Standing where
  keepsStop :=
    { idle :=
        { refl := fun _ h => h
          trans := fun h h' hc => h' (h hc)
          note := fun _ _ h => h
          flush := fun _ h => h
          flushed := fun _ _ h => h
          admin := fun _ _ h => h
          answered := fun _ _ _ h => h
          favoursCall := fun _ h => h }
      setFailures := fun _ _ h => h }
  others _ _ h := h
  noPanic :=
    { admin := fun _ _ _ _ => nofun
      flush := fun _ _ _ => nofun
      close := fun _ _ _ _ => nofun }

/-- The flush in progress is cut short, and the loop exits at the instant of the request. -/
theorem prompt_stop_of_unflushing :
    ∃ asked history st₀ s₀ now n events st s,
      Course .everyMilli .unflushing Standing false asked history st₀ s₀ ∧
      Stopped .everyMilli .unflushing Standing asked st₀ s₀ now n events st s ∧
      st.phase = .exited ∧ ∃ s₁,
        Stopped .everyMilli .unflushing Standing asked st₀ s₀ asked n events st s₁ := by
  let st₀ : LoopState Bool :=
    ((LoopSetup.everyMilli.initial Bool 0).step .everyMilli .unflushing 0 false).1
  have hcourse : Course .everyMilli .unflushing Standing false 1000000 _ st₀ true :=
    ((Course.start 0).step rfl).wait (Nat.zero_le _) fun _ => rfl
  have hrun : Stopped .everyMilli .unflushing Standing 1000000 st₀ true 1000000 2 _ _ _ :=
    (Stopped.told.step rfl).step rfl
  obtain ⟨-, hstopped, -⟩ := hcourse.prompt_stop Surroundings.stopping_unflushing
  obtain ⟨moment, s₁, hended, -, -, hmoment⟩ := (hstopped rfl _ _ _ _ _ hrun).ended trivial
  obtain rfl := hmoment trivial
  exact ⟨_, _, _, _, _, _, _, _, _, hcourse, hrun, rfl, s₁, hended⟩

/-- A loop whose clock runs out half a second after it has got it. -/
def LoopSetup.expiring : LoopSetup :=
  { nodeId := 0, interval := .ofSeconds 1, clock := ⟨9223372036854775307, 0⟩ }

/-- When its clock has run out during the flush, a loop that is told to stop ends in a panic. -/
theorem crashed_of_expiring :
    ∃ asked history st₀ s₀ now n events st s,
      Course .expiring .unflushing Standing false asked history st₀ s₀ ∧
      Surroundings.unflushing.cancelled s₀ = true ∧
      Stopped .expiring .unflushing Standing asked st₀ s₀ now n events st s ∧
      st.phase = .crashed Clock.runOut := by
  have hcourse : Course .expiring .unflushing Standing false 1000000000 _ _ true :=
    ((Course.start 0).step rfl).wait (Nat.zero_le _) fun _ => rfl
  exact ⟨_, _, _, _, _, _, _, _, _, hcourse, rfl, Stopped.told.step rfl, rfl⟩

end MetricFeed
