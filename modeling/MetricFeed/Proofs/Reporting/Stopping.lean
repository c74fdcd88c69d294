/-
MetricFeed/Proofs/Reporting/Stopping.lean

A reporting loop that has been told to stop.  The request to stop cuts short whatever the loop waits
for, with one exception: the release of the administrative client, once begun, is waited for until
it is answered or its deadline comes.  So a loop that has been told to stop needs no more than a few
steps, all of them at once, to come to rest: it has exited, or it waits for this release.

* `step_stepsLeft` : every step of such a loop leaves fewer steps to be taken;
* `step_cancelled` : the request to stop stands after the step;
* `rests` : a loop that cannot go on after a request to stop has ended, or releases the client;
* `releasing_step`, `releasing_wake` : after the release it exits, and how long this takes;
* `Stride.hasReleased` : when there is no client to be released, there never is again.
-/
import MetricFeed.Proofs.Provisioning.Exchange
import MetricFeed.Proofs.Reporting.Dialogue
import MetricFeed.Proofs.Reporting.Endings

namespace MetricFeed

variable {S H : Type}

/-! ### What is relied on -/

/-- A request to stop is not taken back by what the surroundings do outside passes. -/
structure Surroundings.KeepsStop (sur : Surroundings S H) : Prop where
  idle : sur.IdleWithin fun s s' => sur.cancelled s = true → sur.cancelled s' = true
  setFailures : ∀ n s, sur.cancelled s = true →
    sur.cancelled (sur.channel.setFailures n s) = true

/-! ### Steps that are left -/

/-- How many steps a loop takes until it has stopped, at most, once it has been told to. -/
def LoopState.stepsLeft (setup : LoopSetup) (st : LoopState S) : Nat :=
  match st.phase with
  | .starting =>
    if setup.topic?.isSome then 2 * Provisioning.Step.creating.rank + 2 else 1
  | .provisioning _ p => 2 * p.step.rank + (if p.call.isSome then 0 else 1)
  | .releasing _ => 1
  | .flushing _ _ => 2
  | .sleeping _ => 1
  | .exited | .crashed _ => 0

theorem stepsLeft_le (setup : LoopSetup) (st : LoopState S) : st.stepsLeft setup ≤ 12 := by
  obtain ⟨phase, rates, lastPass, stats⟩ := st
  rcases phase with _ | ⟨spec, step, call⟩ | call | ⟨nowMs, call⟩ | wake | _ | message
  · show (if setup.topic?.isSome then 12 else 1) ≤ 12
    split <;> decide
  · have hrank : step.rank ≤ 5 := by
      rcases step with _ | (_ | _) | ⟨_, _ | _⟩ <;> simp [Provisioning.Step.rank]
    show 2 * step.rank + (if call.isSome then 0 else 1) ≤ 12
    split <;> omega
  · exact Nat.le_add_left 1 11
  · exact Nat.le_add_left 2 10
  · exact Nat.le_add_left 1 11
  · exact Nat.zero_le 12
  · exact Nat.zero_le 12

section Stops

variable {setup : LoopSetup} {sur : Surroundings S H} {now : Nat} {st : LoopState S} {s : S}

/-- Between two iterations a loop that has been told to stop exits. -/
theorem iterate_of_cancelled (h : sur.cancelled s = true) :
    st.iterate setup sur now s = ({ st with phase := .exited }, sur.note .loopExited s) := by
  unfold LoopState.iterate
  rw [if_pos h]

theorem iterate_stepsLeft (h : sur.cancelled s = true) :
    (st.iterate setup sur now s).1.stepsLeft setup = 0 := by
  rw [iterate_of_cancelled h]
  rfl

/-- After an iteration there is only to be found out that the loop is to stop. -/
theorem finishIteration_stepsLeft (nowMs : Int64) :
    (st.finishIteration setup sur now nowMs s).1.stepsLeft setup ≤ 1 := by
  unfold LoopState.finishIteration
  rcases setup.clock.nowMs? now with _ | endMs
  · exact Nat.zero_le 1
  · exact Nat.le_refl 1

/-- A dialogue that goes on after an answer does so at a lower rank. -/
theorem answered_rank {spec : TopicSpec} {p p' : (Provisioning.provision spec).Progress S}
    {note : Notice → S → S}
    {answer : Except AdminFault ((Provisioning.provision spec).request p.step).Answer} {s' : S}
    (h : p.answered note answer s = (.inl p', s')) : p'.step.rank < p.step.rank := by
  unfold Dialogue.Progress.answered at h
  rcases hn : (Provisioning.provision spec).next p.step answer with ⟨notices, step | a⟩
  · rw [hn] at h
    cases h
    exact Provisioning.rank_next (congrArg Prod.snd hn)
  · rw [hn] at h
    cases h

/-- A dialogue that is due makes its call, or goes on at a lower rank. -/
theorem advance_rank {spec : TopicSpec} {p p' : (Provisioning.provision spec).Progress S}
    {admin : Administration S} {note : Notice → S → S} {timeout : Duration} {s' : S}
    (hdue : p.isDue now = true) (h : p.advance admin note timeout now s = (.inl p', s')) :
    p.call = none ∧ p'.step = p.step ∧ p'.call.isSome ∨ p'.step.rank < p.step.rank := by
  unfold Dialogue.Progress.isDue at hdue
  unfold Dialogue.Progress.advance at h
  rcases hcall : p.call with _ | c
  · rw [hcall] at h
    cases h
    exact .inl ⟨rfl, rfl, rfl⟩
  · rw [hcall] at h hdue
    dsimp only at h hdue
    by_cases ha : c.isAnswered now = true
    · rw [if_pos ha] at h
      rcases hf : c.finish s with ⟨answer | message, s₁⟩
      · rw [hf] at h
        exact .inr (answered_rank h)
      · rw [hf] at h
        cases h
    · -- it is due, so it is overdue
      have ho : c.isOverdue now = true := by
        simpa only [Call.isDue, Bool.eq_false_iff.mpr ha, Bool.false_or] using hdue
      rw [if_neg ha, if_pos ho] at h
      exact .inr (answered_rank h)

theorem advanceProvisioning_stepsLeft {spec : TopicSpec}
    {p : (Provisioning.provision spec).Progress S} (hdue : p.isDue now = true) :
    (st.advanceProvisioning setup sur now spec p s).1.stepsLeft setup <
      2 * p.step.rank + (if p.call.isSome then 0 else 1) := by
  have hpos := Provisioning.rank_pos p.step
  unfold LoopState.advanceProvisioning
  rcases hr : p.advance sur.admin sur.note setup.requestTimeout now s with
    ⟨p' | outcome | message, s'⟩
  · -- the call has been made, or the rank is lower
    show 2 * p'.step.rank + (if p'.call.isSome then 0 else 1) < _
    rcases advance_rank hdue hr with ⟨hnone, hstep, hsome⟩ | hlt
    · have hrank := congrArg Provisioning.Step.rank hstep
      simp only [hnone, hsome, if_true, Option.isSome_none, Bool.false_eq_true, if_false]
      omega
    · split <;> split <;> omega
  · show 1 < _
    split <;> omega
  · show 0 < _
    omega

/-- **A loop that has been told to stop has fewer steps left after each.** -/
theorem step_stepsLeft (hkeeps : sur.KeepsStop) (hcalls : st.Awaits (sur.calls setup now))
    (hcancelled : sur.cancelled s = true) (hdue : st.isDue sur now s = true) :
    (st.step setup sur now s).1.stepsLeft setup < st.stepsLeft setup := by
  have hc := hcalls.callWithin hkeeps.idle
  unfold LoopState.step
  obtain ⟨phase, rates, lastPass, stats⟩ := st
  rcases phase with _ | ⟨spec, p⟩ | call | ⟨nowMs, call⟩ | wake | _ | message
  · -- starting
    show _ < if setup.topic?.isSome then 2 * Provisioning.Step.creating.rank + 2 else 1
    dsimp only
    rcases setup.topic? with _ | spec
    · rw [iterate_stepsLeft (hkeeps.idle.note _ s hcancelled)]
      exact Nat.one_pos
    · exact Nat.lt_succ_self _
  · -- provisioning: given up, unless an answer that has come as well is looked at first
    have hpos := Provisioning.rank_pos p.step
    show _ < 2 * p.step.rank + (if p.call.isSome then 0 else 1)
    dsimp only
    rw [if_pos hcancelled]
    split
    · rename_i hfirst
      exact advanceProvisioning_stepsLeft (Bool.and_eq_true_iff.mp hfirst).2
    · show 1 < _
      split <;> omega
  · -- releasing
    have h : sur.cancelled s = true → sur.cancelled
        (Provisioning.finishRelease sur.note Provisioning.closeTimeout now call s).2 = true :=
      finishRelease_within hkeeps.idle call hc _
    show _ < 1
    dsimp only
    rcases hr : Provisioning.finishRelease sur.note Provisioning.closeTimeout now call s with
      ⟨_ | message, s'⟩
    · rw [hr] at h
      dsimp only
      rw [iterate_stepsLeft (h hcancelled)]
      exact Nat.one_pos
    · exact Nat.one_pos
  · -- flushing
    show _ < 2
    dsimp only
    split
    · rcases call.finish s with ⟨answer | message, s'⟩
      · exact Nat.lt_succ_of_le (finishIteration_stepsLeft nowMs)
      · exact Nat.two_pos
    · exact Nat.lt_succ_of_le (finishIteration_stepsLeft nowMs)
  · -- sleeping
    show _ < 1
    rw [iterate_stepsLeft hcancelled]
    exact Nat.one_pos
  · cases hdue
  · cases hdue

/-! ### The request to stop stands -/

/-- A loop that has been told to stop makes no pass. -/
theorem Stride.makes_no_pass {e? : Option (LoopEvent S)} {st' : LoopState S} {s' : S}
    (h : Stride setup sur (fun s s' => sur.cancelled s = true → sur.cancelled s' = true) now st s
      e? st' s') (hcancelled : sur.cancelled s = true) : e?.bind LoopEvent.tick? = none := by
  cases h with
  | provisions _ _ _ _ => rfl
  | begins _ _ hR hgo _ _ _ =>
    rw [hR hcancelled] at hgo
    cases hgo
  | ends _ _ _ _ => rfl
  | exits _ _ _ => rfl
  | crashes _ _ _ => rfl
  | runsOut _ _ _ _ hnone => exact hnone

/-- After a step of a loop that has been told to stop, the request to stop stands. -/
theorem step_cancelled (hkeeps : sur.KeepsStop) (hcalls : st.Awaits (sur.calls setup now))
    (hcancelled : sur.cancelled s = true) (hdue : st.isDue sur now s = true) :
    sur.cancelled (st.step setup sur now s).2 = true := by
  have hc := hcalls.callWithin hkeeps.idle
  have hpass : (st.event? setup sur now s).bind LoopEvent.tick? = none :=
    (step_strides hkeeps.idle hc hdue).makes_no_pass hcancelled
  have hl := step_leads setup now s hkeeps.idle hc
  generalize st.event? setup sur now s = e? at hpass hl
  generalize (st.step setup sur now s).1 = st' at hl
  generalize (st.step setup sur now s).2 = s' at hl ⊢
  cases hl with
  | quiet _ _ h => exact h hcancelled
  | tick => cases hpass
  | summary h _ _ h' => exact h' (hkeeps.setFailures _ _ (h hcancelled))

/-! ### Coming to rest -/

/-- A loop that cannot go on after a request to stop has ended, or releases the administrative
client. -/
theorem rests (hcancelled : sur.cancelled s = true) (hrest : st.isDue sur now s = false) :
    st.phase = .exited ∨ (∃ message, st.phase = .crashed message) ∨
      ∃ call, st.phase = .releasing call ∧ call.isDue now = false := by
  unfold LoopState.isDue at hrest
  rcases hphase : st.phase with _ | ⟨spec, p⟩ | call | ⟨nowMs, call⟩ | wake | _ | message <;>
    rw [hphase] at hrest
  · cases hrest
  · simp [hcancelled] at hrest
  · exact .inr (.inr ⟨call, rfl, hrest⟩)
  · simp [hcancelled] at hrest
  · simp [hcancelled] at hrest
  · exact .inl rfl
  · exact .inr (.inl ⟨message, rfl⟩)

/-- There is no administrative client that the loop has yet to release. -/
def LoopState.HasReleased (setup : LoopSetup) (st : LoopState S) : Prop :=
  match st.phase with
  | .starting => setup.topic? = none
  | .provisioning _ _ | .releasing _ => False
  | .flushing _ _ | .sleeping _ | .exited | .crashed _ => True

/-- When there is nothing to be released, there never is again. -/
theorem Stride.hasReleased {R : S → S → Prop} {e? : Option (LoopEvent S)} {st' : LoopState S}
    {s' : S} (h : Stride setup sur R now st s e? st' s') (hreleased : st.HasReleased setup) :
    st'.HasReleased setup := by
  unfold LoopState.HasReleased at hreleased ⊢
  cases h with
  | provisions hpreparing htopic _ _ =>
    rcases isPreparing_iff.mp hpreparing with hphase | ⟨spec, p, hphase⟩
    · rw [hphase] at hreleased
      have hsome := htopic hphase
      rw [hreleased] at hsome
      cases hsome
    · rw [hphase] at hreleased
      exact hreleased.elim
  | begins _ _ _ _ _ hbegun _ =>
    rw [hbegun]
    trivial
  | ends _ _ hended _ =>
    rw [hended]
    trivial
  | exits _ _ _ => trivial
  | crashes _ hcrashed _ =>
    rw [hcrashed]
    trivial
  | runsOut _ _ hcrashed _ _ =>
    rw [hcrashed]
    trivial

/-- Steps of a loop that has been told to stop lead from `st` to `st'`. -/
structure LoopState.ComesTo (setup : LoopSetup) (st st' : LoopState S) : Prop where
  left : st' = st ∨ st'.stepsLeft setup < st.stepsLeft setup
  released : st.HasReleased setup → st'.HasReleased setup

theorem LoopState.ComesTo.refl (st : LoopState S) : st.ComesTo setup st := ⟨.inl rfl, id⟩

theorem LoopState.ComesTo.trans {st₁ st₂ : LoopState S} (h : st.ComesTo setup st₁)
    (h' : st₁.ComesTo setup st₂) : st.ComesTo setup st₂ := by
  refine ⟨?_, h'.released ∘ h.released⟩
  rcases h.left with rfl | hlt
  · exact h'.left
  · rcases h'.left with rfl | hlt'
    · exact .inr hlt
    · exact .inr (Nat.lt_trans hlt' hlt)

/-- A loop without a client to be released comes to no release. -/
theorem LoopState.ComesTo.ne_releasing {st' : LoopState S} (h : st.ComesTo setup st')
    (hreleased : st.HasReleased setup) (call : Call S (Except AdminFault Unit)) :
    st'.phase ≠ .releasing call := by
  intro hphase
  have hreleased' := h.released hreleased
  unfold LoopState.HasReleased at hreleased'
  rw [hphase] at hreleased'
  exact hreleased'

/-- A release that goes on is the same release. -/
theorem LoopState.ComesTo.releasing {st' : LoopState S} (h : st.ComesTo setup st')
    {call call' : Call S (Except AdminFault Unit)} (hphase : st.phase = .releasing call)
    (hphase' : st'.phase = .releasing call') : call' = call := by
  rcases h.left with rfl | hlt
  · rw [hphase] at hphase'
    cases hphase'
    rfl
  · -- there is no step left after the release
    unfold LoopState.stepsLeft at hlt
    rw [hphase, hphase'] at hlt
    exact absurd hlt (Nat.lt_irrefl 1)

theorem step_comesTo (hkeeps : sur.KeepsStop) (hcalls : st.Awaits (sur.calls setup now))
    (hcancelled : sur.cancelled s = true) (hdue : st.isDue sur now s = true) :
    st.ComesTo setup (st.step setup sur now s).1 :=
  ⟨.inr (step_stepsLeft hkeeps hcalls hcancelled hdue),
    (step_strides hkeeps.idle (hcalls.callWithin hkeeps.idle) hdue).hasReleased⟩

/-- The release of the client is the last thing that is waited for: then the loop exits, with the
statistics that it has. -/
theorem releasing_step (hkeeps : sur.KeepsStop) (hpanic : sur.NoPanic)
    (hcalls : st.Awaits (sur.calls setup now)) (hcancelled : sur.cancelled s = true)
    {call : Call S (Except AdminFault Unit)} (hphase : st.phase = .releasing call) :
    (st.step setup sur now s).1 = { st with phase := .exited } := by
  unfold LoopState.Awaits at hcalls
  rw [hphase] at hcalls
  obtain ⟨made, s₀, -, hcall⟩ := hcalls
  have hfinish : ∀ s, sur.cancelled s = true → sur.cancelled (call.finish s).2 = true := by
    rw [hcall]
    exact hkeeps.idle.answered _ s₀
  have h : sur.cancelled s = true → sur.cancelled
      (Provisioning.finishRelease sur.note Provisioning.closeTimeout now call s).2 = true :=
    finishRelease_within hkeeps.idle call hfinish _
  unfold LoopState.step
  rw [hphase]
  dsimp only
  rcases hr : Provisioning.finishRelease sur.note Provisioning.closeTimeout now call s with
    ⟨_ | message, s'⟩
  · rw [hr] at h
    dsimp only
    rw [iterate_of_cancelled (h hcancelled)]
  · -- the client does not panic
    obtain ⟨-, hf⟩ := Provisioning.finishRelease_panicked hr
    rw [hcall] at hf
    exact absurd hf (hpanic.admin _ s₀ s message)

/-! ### How long the release takes -/

/-- The release of the client is waited for until a timer set when it began goes off, and no
longer than its time limit, from now on, says. -/
theorem releasing_wake (hcalls : st.Awaits (sur.calls setup now))
    {call : Call S (Except AdminFault Unit)} (hphase : st.phase = .releasing call) :
    ∃ made s₀ span, made ≤ now ∧
      call = (sur.admin (.close Provisioning.closeTimeout) s₀).1.await made
        (some Provisioning.closeTimeout) ∧
      call.wake? = some (timerAt made span) ∧
      timerAt made span ≤ timerAt now Provisioning.closeTimeout := by
  unfold LoopState.Awaits at hcalls
  rw [hphase] at hcalls
  obtain ⟨made, s₀, hmade, rfl⟩ := hcalls
  obtain ⟨span, hwake, hle⟩ := (sur.admin (.close Provisioning.closeTimeout) s₀).1.await_wake? made
    Provisioning.closeTimeout
  exact ⟨made, s₀, span, hmade, rfl, hwake,
    Nat.le_trans hle (timerAt_mono hmade Provisioning.closeTimeout)⟩

end Stops

end MetricFeed
