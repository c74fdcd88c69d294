/-
MetricFeed/Proofs/Reporting/Endings.lean

How a reporting loop comes to its end.  It exits when it finds, between two iterations, that it has
been told to stop.  Faults do not end it, wherever they occur, and neither does silence of a
collaborator.  A panic within a pass ends the pass alone; a panic of a call that is waited for, a
request of the provisioning, the closing of the administrative client or a flush, takes the loop
with it, and so does a clock that has run out.

* `Course.last_step` : a loop stands where its last step has taken it;
* `Course.exited`, `Course.crashed` : what that step was if the loop has ended;
* `Course.not_crashed` : without such panics and with a clock that lasts, it can only have exited;
* `flushing_step`, `sleeping_step` : otherwise an iteration reaches its sleep, and the next begins;
* `Course.endings` : all of it.
-/
import MetricFeed.Proofs.Reporting.Published
import MetricFeed.Proofs.Reporting.Stride

namespace MetricFeed

variable {S H : Type}

/-- The clients answer as they like, or not at all, but never with a panic. -/
structure Surroundings.NoPanic (sur : Surroundings S H) : Prop where
  admin : ∀ r s s' message, ((sur.admin r s).1.finish s').1 ≠ .panicked message
  flush : ∀ s s' message, ((sur.channel.producer.flush s).1.finish s').1 ≠ .panicked message
  close : ∀ timeout s s' message,
    ((sur.channel.producer.close timeout s).1.finish s').1 ≠ .panicked message

section Endings

variable {setup : LoopSetup} {sur : Surroundings S H} {others : S → S → Prop} {s₀ s : S}
variable {now : Nat} {history : List (LoopEvent S)} {st : LoopState S}

/-! ### The last step -/

/-- A loop stands where its last step has taken it, or where it was when it got its clock. -/
theorem Course.last_step (h : Course setup sur others s₀ now history st s) :
    (∃ given, given ≤ now ∧ st = setup.initial S given) ∨
      ∃ moment earlier st₁ s₁, moment ≤ now ∧ Course setup sur others s₀ moment earlier st₁ s₁ ∧
        st₁.isDue sur moment s₁ = true ∧ st = (st₁.step setup sur moment s₁).1 := by
  induction h with
  | start now => exact .inl ⟨now, Nat.le_refl _, rfl⟩
  | wait _ hle _ ih =>
    rcases ih with ⟨given, hgiven, hst⟩ | ⟨moment, earlier, st₁, s₁, hmoment, hstep⟩
    · exact .inl ⟨given, Nat.le_trans hgiven hle, hst⟩
    · exact .inr ⟨moment, earlier, st₁, s₁, Nat.le_trans hmoment hle, hstep⟩
  | @step now history st s h hdue _ =>
    exact .inr ⟨now, history, st, s, Nat.le_refl _, h, hdue, rfl⟩

/-- A loop that has exited has done so on finding that it had been told to stop. -/
theorem Course.exited (h : Course setup sur others s₀ now history st s)
    (hexited : st.phase = .exited) :
    ∃ moment earlier st₁ s₁ s₂, moment ≤ now ∧
      Course setup sur others s₀ moment earlier st₁ s₁ ∧
      st = (st₁.step setup sur moment s₁).1 ∧
      (st₁.step setup sur moment s₁).2 = sur.note .loopExited s₂ ∧ sur.cancelled s₂ = true := by
  rcases h.last_step with
    ⟨given, -, rfl⟩ | ⟨moment, earlier, st₁, s₁, hmoment, hcourse, hdue, hst⟩
  · -- a loop does not exit before it has begun
    unfold LoopSetup.initial at hexited
    rcases hclock : setup.clock.nowMs? given with _ | nowMs <;> rw [hclock] at hexited <;>
      cases hexited
  · obtain ⟨s₂, hs₂, hcancelled⟩ := (hcourse.strides hdue).exited (hst ▸ hexited)
    exact ⟨moment, earlier, st₁, s₁, s₂, hmoment, hcourse, hst, hs₂, hcancelled⟩

/-- A loop that has crashed has waited for a call that was answered with a panic, or its clock had
run out. -/
theorem Course.crashed (h : Course setup sur others s₀ now history st s) {message : String}
    (hcrashed : st.phase = .crashed message) :
    ∃ moment, moment ≤ now ∧
      (setup.clock.nowMs? moment = none ∧ message = Clock.runOut ∨
        ∃ earlier st₁ s₁, Course setup sur others s₀ moment earlier st₁ s₁ ∧
          st₁.Awaits (sur.calls setup moment) ∧ st₁.Panics sur moment s₁ message) := by
  rcases h.last_step with
    ⟨given, hgiven, rfl⟩ | ⟨moment, earlier, st₁, s₁, hmoment, hcourse, hdue, rfl⟩
  · unfold LoopSetup.initial at hcrashed
    rcases hclock : setup.clock.nowMs? given with _ | nowMs <;> rw [hclock] at hcrashed <;>
      cases hcrashed
    exact ⟨given, hgiven, .inl ⟨hclock, rfl⟩⟩
  · refine ⟨moment, hmoment, ?_⟩
    rcases (hcourse.strides hdue).crashed hcrashed with hpanics | hclock
    · exact .inr ⟨earlier, st₁, s₁, hcourse, hcourse.awaits, hpanics⟩
    · exact .inl hclock

/-- While no client panics, a loop crashes only when its clock has run out. -/
theorem Course.crashed_for_want_of_time (h : Course setup sur others s₀ now history st s)
    (hpanic : sur.NoPanic) {message : String} (hcrashed : st.phase = .crashed message) :
    message = Clock.runOut ∧ ∃ moment, moment ≤ now ∧ setup.clock.nowMs? moment = none := by
  obtain ⟨moment, hmoment, ⟨hnone, hmessage⟩ | ⟨earlier, st₁, s₁, -, hawaits, hpanics⟩⟩ :=
    h.crashed hcrashed
  · exact ⟨hmessage, moment, hmoment, hnone⟩
  · unfold LoopState.Awaits at hawaits
    cases hpanics with
    | provisioning hphase hcall _ _ hf =>
      rw [hphase] at hawaits
      obtain ⟨made, s₂, -, rfl⟩ := hawaits _ hcall
      exact absurd hf (hpanic.admin _ s₂ _ message)
    | releasing hphase _ hf =>
      rw [hphase] at hawaits
      obtain ⟨made, s₂, -, rfl⟩ := hawaits
      exact absurd hf (hpanic.admin _ s₂ _ message)
    | flushing hphase _ hf =>
      rw [hphase] at hawaits
      obtain ⟨made, s₂, -, rfl⟩ := hawaits
      exact absurd hf (hpanic.flush s₂ _ message)

/-- No loop crashes while no client panics and its clock has not run out. -/
theorem Course.not_crashed (h : Course setup sur others s₀ now history st s) (hpanic : sur.NoPanic)
    (hclock : ∀ moment ≤ now, (setup.clock.nowMs? moment).isSome) (message : String) :
    st.phase ≠ .crashed message := by
  intro hcrashed
  obtain ⟨-, moment, hmoment, hnone⟩ := h.crashed_for_want_of_time hpanic hcrashed
  have hsome := hclock moment hmoment
  rw [hnone] at hsome
  cases hsome

/-! ### The way to the next iteration -/

/-- An iteration reaches its sleep when its flush is answered, with whatever but a panic, or cut
short by the request to stop. -/
theorem flushing_step {nowMs endMs : Int64} {call : Call S (Except PublishFault Unit)}
    (hphase : st.phase = .flushing nowMs call)
    (hvalue : call.isAnswered now = true → ∃ answer, (call.finish s).1 = .value answer)
    (hclock : setup.clock.nowMs? now = some endMs) :
    (st.step setup sur now s).1.phase =
      .sleeping (roundUpToMilli (setup.clock.instantAt (addMs nowMs setup.intervalMs))) := by
  have hfinish : ∀ s', (st.finishIteration setup sur now nowMs s').1.phase =
      .sleeping (roundUpToMilli (setup.clock.instantAt (addMs nowMs setup.intervalMs))) := by
    intro s'
    unfold LoopState.finishIteration
    rw [hclock]
  unfold LoopState.step
  rw [hphase]
  dsimp only
  by_cases ha : call.isAnswered now = true
  · rw [if_pos ha]
    obtain ⟨answer, hanswer⟩ := hvalue ha
    rcases hf : call.finish s with ⟨answer' | message, s'⟩
    · exact hfinish _
    · rw [hf] at hanswer
      cases hanswer
  · rw [if_neg ha]
    exact hfinish _

/-- A flush that is answered with a panic takes the loop with it. -/
theorem flushing_step_of_panic {nowMs : Int64} {call : Call S (Except PublishFault Unit)}
    (hphase : st.phase = .flushing nowMs call) (ha : call.isAnswered now = true)
    {message : String} (hpanicked : (call.finish s).1 = .panicked message) :
    (st.step setup sur now s).1.phase = .crashed message := by
  unfold LoopState.step
  rw [hphase]
  dsimp only
  rw [if_pos ha]
  rcases hf : call.finish s with ⟨answer | message', s'⟩
  · rw [hf] at hpanicked
    cases hpanicked
  · rw [hf] at hpanicked
    cases hpanicked
    rfl

/-- A loop that sleeps begins its next iteration when its timer goes off, unless it has been told to
stop.  The iteration's pass may end as it likes. -/
theorem sleeping_step {wake : Nat} {nextMs : Int64} (hphase : st.phase = .sleeping wake)
    (hgo : sur.cancelled s = false) (hclock : setup.clock.nowMs? now = some nextMs) :
    ∃ call, (st.step setup sur now s).1.phase = .flushing nextMs call := by
  unfold LoopState.step
  rw [hphase]
  dsimp only
  unfold LoopState.iterate
  rw [if_neg (Bool.eq_false_iff.mp hgo), hclock]
  exact ⟨_, rfl⟩

/-! ### Ends -/

/-- **Only the request to stop, a panic of a call that is waited for, or a clock that has run out
ends a loop.**  Whatever the collaborators do, faults, panics within a pass, answers that never
come:

* a loop that has exited has found that it had been told to stop;
* a loop that has crashed has waited for a call, made by itself, that was answered with a panic, or
  its clock had run out;
* so a loop whose clients do not panic, and whose clock has not run out, has not crashed: if it has
  ended, it had been told to stop;
* an iteration whose flush is answered with anything but a panic, or cut short by the request to
  stop, reaches its sleep until one interval after its beginning;
* a flush that is answered with a panic does end the loop, whether it has been told to stop or not;
* when the sleep is over, and the loop has not been told to stop, it begins the next iteration. -/
theorem Course.endings (h : Course setup sur others s₀ now history st s) :
    (st.phase = .exited → ∃ moment earlier st₁ s₁ s₂, moment ≤ now ∧
      Course setup sur others s₀ moment earlier st₁ s₁ ∧ st = (st₁.step setup sur moment s₁).1 ∧
      (st₁.step setup sur moment s₁).2 = sur.note .loopExited s₂ ∧ sur.cancelled s₂ = true) ∧
    (∀ message, st.phase = .crashed message → ∃ moment, moment ≤ now ∧
      (setup.clock.nowMs? moment = none ∧ message = Clock.runOut ∨
        ∃ earlier st₁ s₁, Course setup sur others s₀ moment earlier st₁ s₁ ∧
          st₁.Awaits (sur.calls setup moment) ∧ st₁.Panics sur moment s₁ message)) ∧
    (sur.NoPanic → (∀ moment ≤ now, (setup.clock.nowMs? moment).isSome) →
      ∀ message, st.phase ≠ .crashed message) ∧
    (∀ nowMs call, st.phase = .flushing nowMs call → ∀ later s',
      sur.cancelled s' = true ∨ call.isAnswered later = true →
      (call.isAnswered later = true → ∃ answer, (call.finish s').1 = .value answer) →
      (setup.clock.nowMs? later).isSome →
      st.isDue sur later s' = true ∧ (st.step setup sur later s').1.phase =
        .sleeping (roundUpToMilli (setup.clock.instantAt (addMs nowMs setup.intervalMs)))) ∧
    (∀ nowMs call, st.phase = .flushing nowMs call → ∀ later s' message,
      call.isAnswered later = true → (call.finish s').1 = .panicked message →
      (st.step setup sur later s').1.phase = .crashed message) ∧
    ∀ wake, st.phase = .sleeping wake → ∀ later s' nextMs, wake ≤ later →
      sur.cancelled s' = false → setup.clock.nowMs? later = some nextMs →
      st.isDue sur later s' = true ∧
        ∃ call, (st.step setup sur later s').1.phase = .flushing nextMs call := by
  refine ⟨h.exited, fun _ => h.crashed, h.not_crashed, ?_, ?_, ?_⟩
  · intro nowMs call hphase later s' hready hvalue hclock
    have hdue : st.isDue sur later s' = true := by
      unfold LoopState.isDue
      rw [hphase]
      rcases hready with hstop | hanswered
      · simp [hstop]
      · simp [Call.isDue, hanswered]
    obtain ⟨endMs, hend⟩ := Option.isSome_iff_exists.mp hclock
    exact ⟨hdue, flushing_step hphase hvalue hend⟩
  · intro nowMs call hphase later s' message hanswered hpanicked
    exact flushing_step_of_panic hphase hanswered hpanicked
  · intro wake hphase later s' nextMs hwake hgo hclock
    have hdue : st.isDue sur later s' = true := by
      unfold LoopState.isDue
      rw [hphase]
      simp [hwake]
    exact ⟨hdue, sleeping_step hphase hgo hclock⟩

/-- A pass that panics does not keep its iteration from its sleep. -/
theorem endings_of_collapsing :
    ∃ now history st s, Course .everyMilli .collapsing Eq () now history st s ∧
      st.stats.failedTicks = 1 ∧ st.isDue Surroundings.collapsing now s = true ∧
      (st.step .everyMilli .collapsing now s).1.phase = .sleeping 2000000 := by
  have hc : Course .everyMilli .collapsing Eq () _ _ _ _ :=
    ((Course.start 0).wait (Nat.zero_le 1000000) rfl).step rfl
  obtain ⟨-, -, -, hflushing, -⟩ := hc.endings
  obtain ⟨hdue, hsleeping⟩ := hflushing _ _ rfl 1000000 () (.inr rfl) (fun _ => ⟨_, rfl⟩) rfl
  exact ⟨_, _, _, _, hc, rfl, hdue, hsleeping⟩

/-- Surroundings whose producer panics when it is to flush. -/
def Surroundings.capsizing : Surroundings Unit Empty :=
  { Surroundings.quiet Unit with
    channel :=
      { (Surroundings.quiet Unit).channel with
        producer :=
          { (Surroundings.quiet Unit).channel.producer with
            flush := fun s => (.immediate fun s => (.panicked "flush", s), s) } } }

/-- A flush that panics ends a loop that nobody has told to stop. -/
theorem crashed_of_capsizing :
    ∃ now history st s, Course .everyMilli .capsizing Eq () now history st s ∧
      st.phase = .crashed "flush" ∧ ∀ s, Surroundings.capsizing.cancelled s = false :=
  ⟨0, _, _, _, ((Course.start 0).step rfl).step rfl, rfl, fun _ => rfl⟩

end Endings

end MetricFeed
