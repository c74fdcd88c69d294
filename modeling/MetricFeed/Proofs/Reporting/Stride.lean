/-
MetricFeed/Proofs/Reporting/Stride.lean

Where a step of the reporting loop goes.  `Proofs/Reporting/Step` says what counts in a step; here
it is where the loop stands before and after it, and what it takes to end the loop.

A step provisions, begins an iteration, ends one, or ends the loop: in order, because the loop has
been told to stop, or by a panic.  Panics within a pass are none of these; the only ones that end
the loop are those of a call that is waited for, and that of a clock that has run out.

Main result (`step_strides`): every step at which the loop is due is one of these, with what is
needed to go on from it.  Timetable and end of the loop are derived from this.
-/
import MetricFeed.Proofs.Reporting.Course

namespace MetricFeed

variable {S H : Type}

/-! ### Where a loop stands -/

/-- The topic is being provisioned, or nothing has been done yet. -/
def LoopState.IsPreparing (st : LoopState S) : Prop :=
  match st.phase with
  | .starting | .provisioning _ _ => True
  | .releasing _ | .flushing _ _ | .sleeping _ | .exited | .crashed _ => False

/-- The provisioning is under way, or the administrative client is being released. -/
def LoopState.IsProvisioned (st : LoopState S) : Prop :=
  match st.phase with
  | .provisioning _ _ | .releasing _ => True
  | .starting | .flushing _ _ | .sleeping _ | .exited | .crashed _ => False

/-- No iteration has begun yet, or the last one is over. -/
def LoopState.IsBetween (st : LoopState S) : Prop :=
  match st.phase with
  | .starting | .releasing _ | .sleeping _ => True
  | .provisioning _ _ | .flushing _ _ | .exited | .crashed _ => False

theorem isPreparing_iff {st : LoopState S} :
    st.IsPreparing ↔ st.phase = .starting ∨ ∃ spec p, st.phase = .provisioning spec p := by
  unfold LoopState.IsPreparing
  rcases st.phase with _ | _ | _ | _ | _ | _ | _ <;> simp

theorem isProvisioned_iff {st : LoopState S} :
    st.IsProvisioned ↔
      (∃ spec p, st.phase = .provisioning spec p) ∨ ∃ call, st.phase = .releasing call := by
  unfold LoopState.IsProvisioned
  rcases st.phase with _ | _ | _ | _ | _ | _ | _ <;> simp

theorem isBetween_iff {st : LoopState S} :
    st.IsBetween ↔ st.phase = .starting ∨ (∃ call, st.phase = .releasing call) ∨
      ∃ wake, st.phase = .sleeping wake := by
  unfold LoopState.IsBetween
  rcases st.phase with _ | _ | _ | _ | _ | _ | _ <;> simp

/-! ### Panics of the calls that are waited for -/

/-- Going on after an answer is no panic. -/
theorem Dialogue.Progress.answered_ne_panicked {σ α : Type} {d : Dialogue σ α}
    {note : Notice → S → S} (p : d.Progress S)
    (answer : Except AdminFault (d.request p.step).Answer) (s : S) {message : String} {s' : S} :
    p.answered note answer s ≠ (.inr (.panicked message), s') := by
  unfold Dialogue.Progress.answered
  rcases d.next p.step answer with ⟨notices, _ | _⟩
  · rintro ⟨⟩
  · rintro ⟨⟩

/-- A dialogue ends with a panic only if its call is answered with one. -/
theorem Dialogue.Progress.advance_panicked {σ α : Type} {d : Dialogue σ α}
    {admin : Administration S} {note : Notice → S → S} {timeout : Duration} {now : Nat}
    (p : d.Progress S) {s s' : S} {message : String}
    (h : p.advance admin note timeout now s = (.inr (.panicked message), s')) :
    ∃ c, p.call = some c ∧ c.isAnswered now = true ∧ (c.finish s).1 = .panicked message := by
  unfold Dialogue.Progress.advance at h
  rcases hcall : p.call with _ | c
  · rw [hcall] at h
    cases h
  · rw [hcall] at h
    dsimp only at h
    by_cases ha : c.isAnswered now = true
    · rw [if_pos ha] at h
      rcases hf : c.finish s with ⟨answer | m, s₂⟩
      · rw [hf] at h
        exact absurd h (p.answered_ne_panicked answer s₂)
      · rw [hf] at h
        cases h
        exact ⟨c, rfl, ha, congrArg Prod.fst hf⟩
    · rw [if_neg ha] at h
      by_cases ho : c.isOverdue now = true
      · rw [if_pos ho] at h
        exact absurd h (p.answered_ne_panicked _ s)
      · rw [if_neg ho] at h
        cases h

/-- The release ends with a panic only if the closing of the client is answered with one. -/
theorem Provisioning.finishRelease_panicked {note : Notice → S → S} {timeout : Duration}
    {now : Nat} {call : Call S (Except AdminFault Unit)} {s s' : S} {message : String}
    (h : Provisioning.finishRelease note timeout now call s = (.panicked message, s')) :
    call.isAnswered now = true ∧ (call.finish s).1 = .panicked message := by
  unfold Provisioning.finishRelease at h
  by_cases ha : call.isAnswered now = true
  · rw [if_pos ha] at h
    rcases hf : call.finish s with ⟨answer | m, s₁⟩
    · rw [hf] at h
      cases h
    · rw [hf] at h
      cases h
      exact ⟨ha, rfl⟩
  · rw [if_neg ha] at h
    cases h

/-! ### What a step can do -/

/-- The call that the loop waits for is answered with a panic at the instant `now`. -/
inductive LoopState.Panics (sur : Surroundings S H) (now : Nat) (st : LoopState S) (s : S) :
    String → Prop
  | provisioning {spec : TopicSpec} {p : (Provisioning.provision spec).Progress S}
    {c : Call S (Except AdminFault ((Provisioning.provision spec).request p.step).Answer)} {s₁ : S}
    {message : String} :
    st.phase = .provisioning spec p → p.call = some c → c.isAnswered now = true →
    s₁ = s ∨ s₁ = (sur.favoursCall s).2 → (c.finish s₁).1 = .panicked message →
    st.Panics sur now s message
  | releasing {call : Call S (Except AdminFault Unit)} {message : String} :
    st.phase = .releasing call → call.isAnswered now = true →
    (call.finish s).1 = .panicked message → st.Panics sur now s message
  | flushing {nowMs : Int64} {call : Call S (Except PublishFault Unit)} {message : String} :
    st.phase = .flushing nowMs call → call.isAnswered now = true →
    (call.finish s).1 = .panicked message → st.Panics sur now s message

/-- Where a step takes a loop that is due at the instant `now`, when this is what counts in it.  What
the surroundings do before it is decided whether another iteration begins is within `R`. -/
inductive Stride (setup : LoopSetup) (sur : Surroundings S H) (R : S → S → Prop) (now : Nat)
    (st : LoopState S) (s : S) : Option (LoopEvent S) → LoopState S → S → Prop
  /-- The provisioning begins, goes on or ends. -/
  | provisions {st' : LoopState S} {s' : S} : st.IsPreparing →
    (st.phase = .starting → setup.topic?.isSome) → st'.IsProvisioned →
    st' = { st with phase := st'.phase } → Stride setup sur R now st s none st' s'
  /-- An iteration begins, with a pass if one is due. -/
  | begins {nowMs : Int64} {s₁ s₂ : S} {st' : LoopState S} {s' : S} : st.IsBetween →
    (∀ wake, st.phase = .sleeping wake → wake ≤ now) → R s s₁ → sur.cancelled s₁ = false →
    setup.clock.nowMs? now = some nowMs →
    st'.phase = .flushing nowMs ((sur.channel.producer.flush s₂).1.await now none) →
    st'.lastPass = (if st.passDue setup nowMs then nowMs else st.lastPass) →
    Stride setup sur R now st s
      (if st.passDue setup nowMs then
        some (.tick ⟨nowMs, st.rates, sur.note (.reportingAt nowMs) s₁⟩) else none) st' s'
  /-- An iteration ends, and the loop goes to sleep. -/
  | ends {nowMs endMs : Int64} {call : Call S (Except PublishFault Unit)} {s₁ : S}
    {st' : LoopState S} {s' : S} : st.phase = .flushing nowMs call →
    setup.clock.nowMs? now = some endMs →
    st'.phase =
      .sleeping (roundUpToMilli (setup.clock.instantAt (addMs nowMs setup.intervalMs))) →
    st'.lastPass = st.lastPass → Stride setup sur R now st s (some (.summary nowMs s₁)) st' s'
  /-- The loop has been told to stop, and exits. -/
  | exits {s₁ : S} : st.IsBetween → R s s₁ → sur.cancelled s₁ = true →
    Stride setup sur R now st s none { st with phase := .exited } (sur.note .loopExited s₁)
  /-- The call that is waited for is answered with a panic, which ends the loop. -/
  | crashes {message : String} {st' : LoopState S} {s' : S} : st.Panics sur now s message →
    st'.phase = .crashed message → st'.lastPass = st.lastPass →
    Stride setup sur R now st s none st' s'
  /-- The clock has run out, which ends the loop when the clock is read: to begin an iteration, or
  at the end of one. -/
  | runsOut {e? : Option (LoopEvent S)} {st' : LoopState S} {s' : S} :
    setup.clock.nowMs? now = none →
    (∃ s₁, R s s₁ ∧ sur.cancelled s₁ = false) ∨ (∃ nowMs call, st.phase = .flushing nowMs call) →
    st'.phase = .crashed Clock.runOut → st'.lastPass = st.lastPass →
    e?.bind LoopEvent.tick? = none → Stride setup sur R now st s e? st' s'

section Strides

variable {setup : LoopSetup} {sur : Surroundings S H} {R : S → S → Prop} {now : Nat}
variable {st : LoopState S} {s : S}

/-- Between two iterations the loop exits or begins the next one, whatever has been done in the
same step before. -/
theorem iterate_strides (hbetween : st.IsBetween) {s₁ : S} (hs₁ : R s s₁)
    (hwake : sur.cancelled s₁ = false → ∀ wake, st.phase = .sleeping wake → wake ≤ now) :
    Stride setup sur R now st s ((st.passAt? setup sur now s₁).map .tick)
      (st.iterate setup sur now s₁).1 (st.iterate setup sur now s₁).2 := by
  unfold LoopState.iterate LoopState.passAt?
  by_cases hc : sur.cancelled s₁ = true
  · rw [if_pos hc, if_pos hc]
    exact .exits hbetween hs₁ hc
  · rw [if_neg hc, if_neg hc]
    have hgo : sur.cancelled s₁ = false := Bool.eq_false_iff.mpr hc
    rcases hclock : setup.clock.nowMs? now with _ | nowMs
    · exact .runsOut hclock (.inl ⟨s₁, hs₁, hgo⟩) rfl rfl rfl
    · have hbegins : ∀ {st' : LoopState S} {s₂ s' : S},
          st'.phase = .flushing nowMs ((sur.channel.producer.flush s₂).1.await now none) →
          st'.lastPass = (if st.passDue setup nowMs then nowMs else st.lastPass) →
          Stride setup sur R now st s
            (if st.passDue setup nowMs then
              some (.tick ⟨nowMs, st.rates, sur.note (.reportingAt nowMs) s₁⟩) else none) st' s' :=
        fun hphase hlast => .begins hbetween (hwake hgo) hs₁ hgo hclock hphase hlast
      dsimp only
      by_cases hd : st.passDue setup nowMs = true
      · simp only [hd, if_true] at hbegins ⊢
        exact hbegins rfl rfl
      · simp only [hd, if_false, Bool.false_eq_true] at hbegins ⊢
        exact hbegins rfl rfl

theorem accountFailures_lastPass (sur : Surroundings S H) (nowMs : Int64) (st : LoopState S) (s : S) :
    (st.accountFailures sur nowMs s).1.lastPass = st.lastPass := by
  unfold LoopState.accountFailures
  dsimp only
  split <;> rfl

/-- The end of an iteration, whatever has been done in the same step before. -/
theorem finishIteration_strides {nowMs : Int64} {call : Call S (Except PublishFault Unit)}
    (hphase : st.phase = .flushing nowMs call) (s₁ : S) :
    Stride setup sur R now st s (some (.summary nowMs s₁))
      (st.finishIteration setup sur now nowMs s₁).1
      (st.finishIteration setup sur now nowMs s₁).2 := by
  have hlast := accountFailures_lastPass sur nowMs st s₁
  unfold LoopState.finishIteration
  rcases hclock : setup.clock.nowMs? now with _ | endMs
  · exact .runsOut hclock (.inr ⟨nowMs, call, hphase⟩) rfl hlast rfl
  · exact .ends hphase hclock rfl hlast

/-- The release of the administrative client begins once the provisioning is over. -/
theorem beginRelease_strides {spec : TopicSpec} {p : (Provisioning.provision spec).Progress S}
    (hphase : st.phase = .provisioning spec p) (s₁ : S) :
    Stride setup sur R now st s none (st.beginRelease sur now s₁).1
      (st.beginRelease sur now s₁).2 :=
  .provisions (isPreparing_iff.mpr (.inr ⟨spec, p, hphase⟩)) (by rw [hphase]; rintro ⟨⟩) trivial rfl

/-- The provisioning ends the loop only if its call is answered with a panic. -/
theorem advanceProvisioning_strides {spec : TopicSpec}
    {p : (Provisioning.provision spec).Progress S} (hphase : st.phase = .provisioning spec p)
    {s₁ : S} (hs₁ : s₁ = s ∨ s₁ = (sur.favoursCall s).2) :
    Stride setup sur R now st s none (st.advanceProvisioning setup sur now spec p s₁).1
      (st.advanceProvisioning setup sur now spec p s₁).2 := by
  unfold LoopState.advanceProvisioning
  rcases hr : p.advance sur.admin sur.note setup.requestTimeout now s₁ with
    ⟨p' | outcome | message, s'⟩
  · exact .provisions (isPreparing_iff.mpr (.inr ⟨spec, p, hphase⟩)) (by rw [hphase]; rintro ⟨⟩)
      trivial rfl
  · exact beginRelease_strides hphase _
  · obtain ⟨c, hcall, ha, hf⟩ := p.advance_panicked hr
    exact .crashes (.provisioning hphase hcall ha hs₁ hf) rfl rfl

/-- **Where a step goes.** -/
theorem step_strides (hR : sur.IdleWithin R) (hc : st.CallWithin R)
    (hdue : st.isDue sur now s = true) :
    Stride setup sur R now st s (st.event? setup sur now s) (st.step setup sur now s).1
      (st.step setup sur now s).2 := by
  unfold LoopState.CallWithin LoopState.Awaits at hc
  unfold LoopState.isDue at hdue
  unfold LoopState.event? LoopState.step
  rcases hphase : st.phase with _ | ⟨spec, p⟩ | call | ⟨nowMs, call⟩ | wake | _ | message
  · -- starting
    rcases htopic : setup.topic? with _ | spec
    · refine iterate_strides ?_ (hR.note _ s) ?_
      · simp only [LoopState.IsBetween, hphase]
      · intro _ wake hw
        rw [hphase] at hw
        cases hw
    · exact .provisions (isPreparing_iff.mpr (.inl hphase)) (fun _ => by rw [htopic]; rfl) trivial
        rfl
  · -- provisioning
    dsimp only
    split
    · split
      · exact advanceProvisioning_strides hphase (.inr rfl)
      · exact beginRelease_strides hphase _
    · exact advanceProvisioning_strides hphase (.inl rfl)
  · -- releasing
    rw [hphase] at hc
    have h : R s (Provisioning.finishRelease sur.note Provisioning.closeTimeout now call s).2 :=
      finishRelease_within hR call hc _
    dsimp only
    rcases hr : Provisioning.finishRelease sur.note Provisioning.closeTimeout now call s with
      ⟨_ | message, s'⟩
    · rw [hr] at h
      refine iterate_strides ?_ h ?_
      · simp only [LoopState.IsBetween, hphase]
      · intro _ wake hw
        rw [hphase] at hw
        cases hw
    · obtain ⟨ha, hf⟩ := Provisioning.finishRelease_panicked hr
      exact .crashes (.releasing hphase ha hf) rfl rfl
  · -- flushing
    dsimp only
    by_cases ha : call.isAnswered now = true
    · rw [if_pos ha, if_pos ha]
      rcases hf : call.finish s with ⟨answer | message, s'⟩
      · exact finishIteration_strides hphase _
      · exact .crashes (.flushing hphase ha (congrArg Prod.fst hf)) rfl rfl
    · rw [if_neg ha, if_neg ha]
      exact finishIteration_strides hphase _
  · -- sleeping
    refine iterate_strides ?_ (hR.refl s) ?_
    · simp only [LoopState.IsBetween, hphase]
    · intro hgo wake' hw
      rw [hphase] at hw hdue
      cases hw
      simpa [hgo] using hdue
  · -- exited
    rw [hphase] at hdue
    cases hdue
  · -- crashed
    rw [hphase] at hdue
    cases hdue

/-- Every step of a course goes somewhere. -/
theorem Course.strides {others : S → S → Prop} {s₀ : S} {history : List (LoopEvent S)}
    (h : Course setup sur others s₀ now history st s) (hdue : st.isDue sur now s = true) :
    Stride setup sur (fun _ _ => True) now st s (st.event? setup sur now s)
      (st.step setup sur now s).1 (st.step setup sur now s).2 :=
  step_strides sur.idleWithin_true (h.callWithin sur.idleWithin_true) hdue

/-- A loop exits only on the request to stop. -/
theorem Stride.exited {e? : Option (LoopEvent S)} {st' : LoopState S} {s' : S}
    (h : Stride setup sur R now st s e? st' s') (hphase : st'.phase = .exited) :
    ∃ s₁, s' = sur.note .loopExited s₁ ∧ sur.cancelled s₁ = true := by
  cases h with
  | provisions _ _ hprov _ =>
    unfold LoopState.IsProvisioned at hprov
    rw [hphase] at hprov
    cases hprov
  | begins _ _ _ _ _ hbegun _ =>
    rw [hphase] at hbegun
    cases hbegun
  | ends _ _ hended _ =>
    rw [hphase] at hended
    cases hended
  | exits _ _ hcancelled => exact ⟨_, rfl, hcancelled⟩
  | crashes _ hcrashed _ =>
    rw [hphase] at hcrashed
    cases hcrashed
  | runsOut _ _ hcrashed _ _ =>
    rw [hphase] at hcrashed
    cases hcrashed

/-- A loop crashes only with a call that is waited for, or for want of time. -/
theorem Stride.crashed {e? : Option (LoopEvent S)} {st' : LoopState S} {s' : S} {message : String}
    (h : Stride setup sur R now st s e? st' s') (hphase : st'.phase = .crashed message) :
    st.Panics sur now s message ∨ setup.clock.nowMs? now = none ∧ message = Clock.runOut := by
  cases h with
  | provisions _ _ hprov _ =>
    unfold LoopState.IsProvisioned at hprov
    rw [hphase] at hprov
    cases hprov
  | begins _ _ _ _ _ hbegun _ =>
    rw [hphase] at hbegun
    cases hbegun
  | ends _ _ hended _ =>
    rw [hphase] at hended
    cases hended
  | exits => cases hphase
  | crashes hpanics hcrashed _ =>
    rw [hphase] at hcrashed
    cases hcrashed
    exact .inl hpanics
  | runsOut hclock _ hcrashed _ _ =>
    rw [hphase] at hcrashed
    cases hcrashed
    exact .inr ⟨hclock, rfl⟩

end Strides

end MetricFeed
