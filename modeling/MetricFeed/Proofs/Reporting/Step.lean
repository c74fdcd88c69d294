/-
MetricFeed/Proofs/Reporting/Step.lean

What a step of the reporting loop can do.  Two kinds of events count: the collection passes
(`LoopEvent.tick`), and the accounts of failed deliveries at the end of an iteration
(`LoopEvent.summary`).  A step adds at most one event (`LoopState.event?`).

`step_leads` says once what a step can do: before and after its event the surroundings act as they
do outside passes, and statistics and rates change by the event alone.  `step_awaits` says of the
call that the loop then waits for that it is one of those that the loop makes, or the same as
before.  All invariants of the loop are derived from these two.
-/
import MetricFeed.Proofs.Reporting.Pass
import MetricFeed.Reporting.Loop

namespace MetricFeed

variable {S H : Type}

/-! ### Events -/

/-- A collection pass as it begins: its time, what is remembered of counters, and the
surroundings, from which the count of failed deliveries has yet to be taken. -/
structure Tick (S : Type) where
  nowMs : Int64
  rates : Rates
  state : S

namespace Tick

/-- What the pass works on. -/
def start (sur : Surroundings S H) (t : Tick S) : PassState S :=
  { state := (sur.channel.takeFailures t.state).2, rates := t.rates }

/-- How the pass ends. -/
def outcome (setup : LoopSetup) (sur : Surroundings S H) (t : Tick S) : Except Cut Unit :=
  (Pass.run sur setup.nodeId t.nowMs (t.start sur)).1

/-- What the pass leaves behind. -/
def final (setup : LoopSetup) (sur : Surroundings S H) (t : Tick S) : PassState S :=
  (Pass.run sur setup.nodeId t.nowMs (t.start sur)).2

/-- Whether a fault or a panic ends the pass. -/
def failed (setup : LoopSetup) (sur : Surroundings S H) (t : Tick S) : Bool :=
  match t.outcome setup sur with
  | .ok _ => false
  | .error _ => true

/-- The statistics after the pass. -/
def count (setup : LoopSetup) (sur : Surroundings S H) (t : Tick S) (stats : LoopStats) :
    LoopStats :=
  { stats with
    ticks := stats.ticks + 1
    published := stats.published + (t.final setup sur).published
    failedTicks := stats.failedTicks + (t.failed setup sur).toNat }

end Tick

/-- What counts in the course of a loop. -/
inductive LoopEvent (S : Type)
  | tick (t : Tick S)
  /-- The iteration that began at `nowMs` accounts for the failed deliveries. -/
  | summary (nowMs : Int64) (state : S)

namespace LoopEvent

/-- The state of the surroundings when the event happens: when the count of failed deliveries is
about to be taken. -/
def state : LoopEvent S → S
  | .tick t => t.state
  | .summary _ s => s

/-- The pass, if the event is one. -/
def tick? : LoopEvent S → Option (Tick S)
  | .tick t => some t
  | .summary _ _ => none

end LoopEvent

/-- The passes of a history. -/
def ticksOf (history : List (LoopEvent S)) : List (Tick S) :=
  history.filterMap LoopEvent.tick?

/-- The first of several items, if it counts, comes before the others that do. -/
theorem filterMap_cons_toList {α β : Type} (f : α → Option β) (a : α) (l : List α) :
    (a :: l).filterMap f = (f a).toList ++ l.filterMap f := by
  rw [List.filterMap_cons]
  rcases f a with _ | b <;> rfl

/-- The passes after a step. -/
theorem ticksOf_event (e? : Option (LoopEvent S)) (history : List (LoopEvent S)) :
    ticksOf (e?.toList ++ history) = (e?.bind LoopEvent.tick?).toList ++ ticksOf history := by
  rcases e? with _ | e
  · rfl
  · exact filterMap_cons_toList _ e history

namespace LoopState

/-- The pass with which an iteration begins, if one is due. -/
def passAt? (setup : LoopSetup) (sur : Surroundings S H) (now : Nat) (st : LoopState S) (s : S) :
    Option (Tick S) :=
  if sur.cancelled s then none
  else
    match setup.clock.nowMs? now with
    | none => none
    | some nowMs =>
      if st.passDue setup nowMs then some ⟨nowMs, st.rates, sur.note (.reportingAt nowMs) s⟩
      else none

/-- What counts in a step of the loop. -/
def event? (setup : LoopSetup) (sur : Surroundings S H) (now : Nat) (st : LoopState S) (s : S) :
    Option (LoopEvent S) :=
  match st.phase with
  | .starting =>
    if setup.topic?.isSome then none
    else (st.passAt? setup sur now (sur.note (.loopStarting setup.interval) s)).map .tick
  | .releasing call =>
    match Provisioning.finishRelease sur.note Provisioning.closeTimeout now call s with
    | (.value _, s) => (st.passAt? setup sur now s).map .tick
    | (.panicked _, _) => none
  | .sleeping _ => (st.passAt? setup sur now s).map .tick
  | .flushing nowMs call =>
    if call.isAnswered now then
      match call.finish s with
      | (.value answer, s) =>
        some (.summary nowMs
          ((flushNotices (sur.cancelled s) answer).foldl (fun s n => sur.note n s) s))
      | (.panicked _, _) => none
    else some (.summary nowMs (sur.note .flushInterrupted s))
  | .provisioning _ _ | .exited | .crashed _ => none

end LoopState

/-! ### What the surroundings do outside passes -/

/-- Whatever the surroundings do outside passes, apart from the count of failed deliveries, relates
the states before and after by `R`. -/
structure Surroundings.IdleWithin (sur : Surroundings S H) (R : S → S → Prop) : Prop where
  refl : ∀ s, R s s
  trans : ∀ {s₁ s₂ s₃}, R s₁ s₂ → R s₂ s₃ → R s₁ s₃
  note : ∀ n s, R s (sur.note n s)
  flush : ∀ s, R s (sur.channel.producer.flush s).2
  flushed : ∀ s s', R s' ((sur.channel.producer.flush s).1.finish s').2
  admin : ∀ r s, R s (sur.admin r s).2
  answered : ∀ r s s', R s' ((sur.admin r s).1.finish s').2
  favoursCall : ∀ s, R s (sur.favoursCall s).2

/-- No surroundings do more than anything at all. -/
theorem Surroundings.idleWithin_true (sur : Surroundings S H) :
    sur.IdleWithin fun _ _ => True := by
  constructor <;> intros <;> trivial

/-! ### What is waited for -/

/-- What is to hold of the calls that a loop waits for: the requests of the provisioning, the
closing of the administrative client, and the flushes. -/
structure CallSpec (S : Type) where
  request : (r : AdminRequest) → Call S (Except AdminFault r.Answer) → Prop
  release : Call S (Except AdminFault Unit) → Prop
  flush : Call S (Except PublishFault Unit) → Prop

/-- If a loop waits for a call, then for one as specified. -/
def LoopState.Awaits (P : CallSpec S) (st : LoopState S) : Prop :=
  match st.phase with
  | .provisioning spec progress =>
    ∀ c ∈ progress.call, P.request ((Provisioning.provision spec).request progress.step) c
  | .releasing call => P.release call
  | .flushing _ call => P.flush call
  | .starting | .sleeping _ | .exited | .crashed _ => True

/-- The calls that a loop makes at the instant `now` are as specified. -/
structure Surroundings.Makes (sur : Surroundings S H) (setup : LoopSetup) (now : Nat)
    (P : CallSpec S) : Prop where
  request : ∀ r s, P.request r ((sur.admin r s).1.await now (some setup.requestTimeout))
  release : ∀ s, P.release
    ((sur.admin (.close Provisioning.closeTimeout) s).1.await now (some Provisioning.closeTimeout))
  flush : ∀ s, P.flush ((sur.channel.producer.flush s).1.await now none)

theorem LoopState.Awaits.imp {P Q : CallSpec S} {st : LoopState S} (h : st.Awaits P)
    (hrequest : ∀ r c, P.request r c → Q.request r c) (hrelease : ∀ c, P.release c → Q.release c)
    (hflush : ∀ c, P.flush c → Q.flush c) : st.Awaits Q := by
  unfold LoopState.Awaits at h ⊢
  revert h
  rcases st.phase with _ | ⟨spec, p⟩ | call | ⟨nowMs, call⟩ | wake | _ | message
  · exact id
  · exact fun h c hc => hrequest _ c (h c hc)
  · exact hrelease call
  · exact hflush call
  · exact id
  · exact id
  · exact id

/-- The calls that a loop has made by the instant `now`. -/
def Surroundings.calls (sur : Surroundings S H) (setup : LoopSetup) (now : Nat) : CallSpec S where
  request r c := ∃ made s, made ≤ now ∧
    c = (sur.admin r s).1.await made (some setup.requestTimeout)
  release c := ∃ made s, made ≤ now ∧
    c = (sur.admin (.close Provisioning.closeTimeout) s).1.await made
      (some Provisioning.closeTimeout)
  flush c := ∃ made s, made ≤ now ∧ c = (sur.channel.producer.flush s).1.await made none

theorem Surroundings.makes_calls (sur : Surroundings S H) (setup : LoopSetup) (now : Nat) :
    sur.Makes setup now (sur.calls setup now) where
  request _ s := ⟨now, s, Nat.le_refl _, rfl⟩
  release s := ⟨now, s, Nat.le_refl _, rfl⟩
  flush s := ⟨now, s, Nat.le_refl _, rfl⟩

/-- The call that a loop waits for acts within `R` when it is answered. -/
def LoopState.CallWithin (R : S → S → Prop) (st : LoopState S) : Prop :=
  st.Awaits
    { request := fun _ c => ∀ s, R s (c.finish s).2
      release := fun c => ∀ s, R s (c.finish s).2
      flush := fun c => ∀ s, R s (c.finish s).2 }

/-- The calls of a loop act as its surroundings do. -/
theorem LoopState.Awaits.callWithin {sur : Surroundings S H} {setup : LoopSetup} {now : Nat}
    {st : LoopState S} {R : S → S → Prop} (h : st.Awaits (sur.calls setup now))
    (hR : sur.IdleWithin R) : st.CallWithin R := by
  refine h.imp ?_ ?_ ?_
  · rintro r _ ⟨made, s, -, rfl⟩
    exact hR.answered r s
  · rintro _ ⟨made, s, -, rfl⟩
    exact hR.answered _ s
  · rintro _ ⟨made, s, -, rfl⟩
    exact hR.flushed s

/-! ### What a step can do -/

/-- How a loop and its surroundings go on when `event?` is what counts: statistics and rates change
by the event alone, and the surroundings act within `R` before and after it. -/
inductive Leads (setup : LoopSetup) (sur : Surroundings S H) (R : S → S → Prop)
    (st : LoopState S) (s : S) : Option (LoopEvent S) → LoopState S → S → Prop
  | quiet {st' : LoopState S} {s' : S} : st'.rates = st.rates → st'.stats = st.stats → R s s' →
    Leads setup sur R st s none st' s'
  | tick {t : Tick S} {st' : LoopState S} {s' : S} : t.rates = st.rates → R s t.state →
    st'.rates = (t.final setup sur).rates → st'.stats = t.count setup sur st.stats →
    R (t.final setup sur).state s' → Leads setup sur R st s (some (.tick t)) st' s'
  | summary {nowMs : Int64} {s₁ : S} {st' : LoopState S} {s' : S} : R s s₁ →
    st'.rates = st.rates →
    st'.stats =
      { st.stats with
        deliveryFailures := st.stats.deliveryFailures + sur.channel.failures s₁ } →
    R (sur.channel.takeFailures s₁).2 s' →
    Leads setup sur R st s (some (.summary nowMs s₁)) st' s'

section Steps

variable {setup : LoopSetup} {sur : Surroundings S H} {R : S → S → Prop} {now : Nat}
variable {st : LoopState S} {s : S}

/-- What was done before a step's event, and before a quiet step, may be put in front. -/
theorem Leads.after {s₁ : S} {e? : Option (LoopEvent S)} {st' : LoopState S} {s' : S}
    (hR : sur.IdleWithin R) (h : R s s₁) (hl : Leads setup sur R st s₁ e? st' s') :
    Leads setup sur R st s e? st' s' := by
  cases hl with
  | quiet hr hs h' => exact .quiet hr hs (hR.trans h h')
  | tick ht h' hr hs h'' => exact .tick ht (hR.trans h h') hr hs h''
  | summary h' hr hs h'' => exact .summary (hR.trans h h') hr hs h''

/-- Saying several things in the log. -/
theorem Surroundings.IdleWithin.notes (hR : sur.IdleWithin R) (ns : List Notice) (s : S) :
    R s (ns.foldl (fun s n => sur.note n s) s) := by
  induction ns generalizing s with
  | nil => exact hR.refl s
  | cons n rest ih => exact hR.trans (hR.note n s) (ih _)

/-! #### Iterations -/

/-- A pass in terms of the tick that it is. -/
theorem runPass_eq (nowMs : Int64) :
    st.runPass setup sur nowMs s =
      ({ st with
          rates := (Tick.final setup sur ⟨nowMs, st.rates, s⟩).rates
          lastPass := nowMs
          stats := Tick.count setup sur ⟨nowMs, st.rates, s⟩ st.stats },
        (LoopState.passNotices nowMs (Tick.outcome setup sur ⟨nowMs, st.rates, s⟩)).foldl
          (fun s n => sur.note n s) (Tick.final setup sur ⟨nowMs, st.rates, s⟩).state) := by
  unfold LoopState.runPass Tick.count Tick.failed Tick.outcome Tick.final Tick.start
  dsimp only
  generalize Pass.run sur setup.nodeId nowMs _ = r
  obtain ⟨_ | _, p⟩ := r <;> rfl

/-- A pass that is due is the event of its iteration. -/
theorem runPass_leads (hR : sur.IdleWithin R) (nowMs : Int64) :
    Leads setup sur R st s (some (.tick ⟨nowMs, st.rates, s⟩))
      (st.runPass setup sur nowMs s).1 (st.runPass setup sur nowMs s).2 := by
  rw [runPass_eq]
  exact .tick rfl (hR.refl s) rfl rfl (hR.notes _ _)

theorem iterate_leads (hR : sur.IdleWithin R) :
    Leads setup sur R st s ((st.passAt? setup sur now s).map .tick)
      (st.iterate setup sur now s).1 (st.iterate setup sur now s).2 := by
  unfold LoopState.iterate LoopState.passAt?
  by_cases hc : sur.cancelled s = true
  · rw [if_pos hc, if_pos hc]
    exact .quiet rfl rfl (hR.note _ s)
  · rw [if_neg hc, if_neg hc]
    rcases setup.clock.nowMs? now with _ | nowMs
    · exact .quiet rfl rfl (hR.refl s)
    · dsimp only
      by_cases hd : st.passDue setup nowMs = true
      · -- the pass, between the notice of its time and the flush
        rw [if_pos hd, if_pos hd]
        have hp : Leads setup sur R st (sur.note (.reportingAt nowMs) s) _
            (st.runPass setup sur nowMs (sur.note (.reportingAt nowMs) s)).1
            (st.runPass setup sur nowMs (sur.note (.reportingAt nowMs) s)).2 :=
          runPass_leads hR nowMs
        cases hp with
        | tick ht h hr hs h' =>
          exact .tick ht (hR.note _ s) hr hs (hR.trans h' (hR.flush _))
      · -- no pass is due: the iteration only flushes
        rw [if_neg hd, if_neg hd]
        exact .quiet rfl rfl (hR.trans (hR.note _ s) (hR.flush _))

/-- Accounting for failed deliveries adds them to the statistics. -/
theorem accountFailures_spec (hR : sur.IdleWithin R) (nowMs : Int64) (st : LoopState S) (s : S) :
    (st.accountFailures sur nowMs s).1.rates = st.rates ∧
      (st.accountFailures sur nowMs s).1.stats =
        { st.stats with
          deliveryFailures := st.stats.deliveryFailures + sur.channel.failures s } ∧
      R (sur.channel.takeFailures s).2 (st.accountFailures sur nowMs s).2 := by
  unfold LoopState.accountFailures
  dsimp only
  by_cases hz : (sur.channel.takeFailures s).1 = 0
  · -- with no failures nothing is added, which is the same as adding none
    have hz' : sur.channel.failures s = 0 := hz
    rw [if_pos hz, hz']
    exact ⟨rfl, rfl, hR.refl _⟩
  · rw [if_neg hz]
    exact ⟨rfl, rfl, hR.note _ _⟩

/-- The account of failed deliveries is the event of the end of an iteration. -/
theorem finishIteration_leads (hR : sur.IdleWithin R) (nowMs : Int64) :
    Leads setup sur R st s (some (.summary nowMs s))
      (st.finishIteration setup sur now nowMs s).1
      (st.finishIteration setup sur now nowMs s).2 := by
  obtain ⟨hr, hs, h⟩ := accountFailures_spec hR nowMs st s
  unfold LoopState.finishIteration
  rcases setup.clock.nowMs? now with _ | endMs
  · exact .summary (hR.refl s) hr hs h
  · exact .summary (hR.refl s) hr hs (hR.trans h (hR.note _ _))

/-! #### Provisioning -/

theorem beginRelease_leads (hR : sur.IdleWithin R) :
    Leads setup sur R st s none (st.beginRelease sur now s).1 (st.beginRelease sur now s).2 :=
  .quiet rfl rfl (hR.admin _ s)

theorem answered_within {σ α : Type} {d : Dialogue σ α} (hR : sur.IdleWithin R)
    (p : d.Progress S) (answer : Except AdminFault (d.request p.step).Answer) (s : S) :
    R s (p.answered sur.note answer s).2 := by
  unfold Dialogue.Progress.answered
  rcases d.next p.step answer with ⟨notices, _ | _⟩
  · exact hR.notes notices s
  · exact hR.notes notices s

/-- Whatever comes of going on with a dialogue, the surroundings act within `R`. -/
theorem advance_within {σ α : Type} {d : Dialogue σ α} (hR : sur.IdleWithin R)
    (p : d.Progress S) (hc : ∀ c ∈ p.call, ∀ s, R s (c.finish s).2) (timeout : Duration) :
    R s (p.advance sur.admin sur.note timeout now s).2 := by
  unfold Dialogue.Progress.advance
  rcases h : p.call with _ | c
  · -- the request of the present step has yet to be made
    exact hR.admin _ s
  · have hf := hc c (by rw [h]; rfl) s
    dsimp only
    by_cases ha : c.isAnswered now = true
    · rw [if_pos ha]
      rcases hr : c.finish s with ⟨answer | message, s'⟩
      · rw [hr] at hf
        exact hR.trans hf (answered_within hR p answer s')
      · rw [hr] at hf
        exact hf
    · rw [if_neg ha]
      by_cases ho : c.isOverdue now = true
      · -- the dialogue goes on as if a timeout had been answered
        rw [if_pos ho]
        exact answered_within hR p _ s
      · rw [if_neg ho]
        exact hR.refl s

theorem advanceProvisioning_leads (hR : sur.IdleWithin R) (spec : TopicSpec)
    (p : (Provisioning.provision spec).Progress S)
    (hc : ∀ c ∈ p.call, ∀ s, R s (c.finish s).2) :
    Leads setup sur R st s none (st.advanceProvisioning setup sur now spec p s).1
      (st.advanceProvisioning setup sur now spec p s).2 := by
  have h : R s (p.advance sur.admin sur.note setup.requestTimeout now s).2 :=
    advance_within hR p hc _
  unfold LoopState.advanceProvisioning
  rcases hr : p.advance sur.admin sur.note setup.requestTimeout now s with
    ⟨p' | outcome | message, s'⟩
  · rw [hr] at h
    exact .quiet rfl rfl h
  · -- the dialogue is over: its outcome is noted and the release begins
    rw [hr] at h
    exact .quiet rfl rfl (hR.trans h (hR.trans (hR.note _ s') (hR.admin _ _)))
  · rw [hr] at h
    exact .quiet rfl rfl h

theorem interruptProvisioning_leads (hR : sur.IdleWithin R) :
    Leads setup sur R st s none (st.interruptProvisioning sur now s).1
      (st.interruptProvisioning sur now s).2 :=
  Leads.after hR (hR.note _ s) (beginRelease_leads hR)

theorem finishRelease_within (hR : sur.IdleWithin R) (call : Call S (Except AdminFault Unit))
    (hc : ∀ s, R s (call.finish s).2) (timeout : Duration) :
    R s (Provisioning.finishRelease sur.note timeout now call s).2 := by
  have hf := hc s
  unfold Provisioning.finishRelease
  by_cases ha : call.isAnswered now = true
  · rw [if_pos ha]
    rcases hr : call.finish s with ⟨answer | message, s'⟩
    · rw [hr] at hf
      exact hR.trans hf (hR.note _ s')
    · rw [hr] at hf
      exact hf
  · rw [if_neg ha]
    exact hR.note _ s

/-! #### A step -/

/-- **What a step can do**: it leads on by its event. -/
theorem step_leads (setup : LoopSetup) (now : Nat) (s : S) (hR : sur.IdleWithin R)
    (hc : st.CallWithin R) :
    Leads setup sur R st s (st.event? setup sur now s) (st.step setup sur now s).1
      (st.step setup sur now s).2 := by
  unfold LoopState.CallWithin LoopState.Awaits at hc
  unfold LoopState.event? LoopState.step
  revert hc
  rcases st.phase with _ | ⟨spec, p⟩ | call | ⟨nowMs, call⟩ | wake | _ | message
  · -- starting
    intro _
    rcases setup.topic? with _ | spec
    · exact Leads.after hR (hR.note _ s) (iterate_leads hR)
    · exact .quiet rfl rfl (hR.note _ s)
  · -- provisioning
    intro hc
    dsimp only
    by_cases hstop : sur.cancelled s = true
    · rw [if_pos hstop]
      refine Leads.after hR (hR.favoursCall s) ?_
      split
      · exact advanceProvisioning_leads hR spec p hc
      · exact interruptProvisioning_leads hR
    · rw [if_neg hstop]
      exact advanceProvisioning_leads hR spec p hc
  · -- releasing
    intro hc
    have h : R s (Provisioning.finishRelease sur.note Provisioning.closeTimeout now call s).2 :=
      finishRelease_within hR call hc _
    dsimp only
    rcases hr : Provisioning.finishRelease sur.note Provisioning.closeTimeout now call s with
      ⟨_ | message, s'⟩
    · rw [hr] at h
      exact Leads.after hR h (iterate_leads hR)
    · rw [hr] at h
      exact .quiet rfl rfl h
  · -- flushing
    intro hc
    have hf := hc s
    dsimp only
    by_cases ha : call.isAnswered now = true
    · rw [if_pos ha, if_pos ha]
      rcases hr : call.finish s with ⟨answer | message, s'⟩
      · rw [hr] at hf
        exact Leads.after hR (hR.trans hf (hR.notes _ s')) (finishIteration_leads hR nowMs)
      · rw [hr] at hf
        exact .quiet rfl rfl hf
    · rw [if_neg ha, if_neg ha]
      exact Leads.after hR (hR.note _ s) (finishIteration_leads hR nowMs)
  · -- sleeping
    exact fun _ => iterate_leads hR
  · -- exited
    exact fun _ => .quiet rfl rfl (hR.refl s)
  · -- crashed
    exact fun _ => .quiet rfl rfl (hR.refl s)

/-! #### The calls that are waited for -/

theorem iterate_awaits {P : CallSpec S} (hP : sur.Makes setup now P) :
    (st.iterate setup sur now s).1.Awaits P := by
  unfold LoopState.iterate
  by_cases hc : sur.cancelled s = true
  · rw [if_pos hc]
    trivial
  · rw [if_neg hc]
    rcases setup.clock.nowMs? now with _ | nowMs
    · trivial
    · exact hP.flush _

theorem finishIteration_awaits {P : CallSpec S} (nowMs : Int64) :
    (st.finishIteration setup sur now nowMs s).1.Awaits P := by
  unfold LoopState.finishIteration
  rcases setup.clock.nowMs? now with _ | endMs <;> trivial

theorem beginRelease_awaits {P : CallSpec S} (hP : sur.Makes setup now P) :
    (st.beginRelease sur now s).1.Awaits P :=
  hP.release s

theorem answered_call {spec : TopicSpec} (p : (Provisioning.provision spec).Progress S)
    (answer : Except AdminFault ((Provisioning.provision spec).request p.step).Answer)
    {note : Notice → S → S} {p' : (Provisioning.provision spec).Progress S} {s' : S}
    (h : p.answered note answer s = (.inl p', s')) : p'.call = none := by
  unfold Dialogue.Progress.answered at h
  rcases hn : (Provisioning.provision spec).next p.step answer with ⟨notices, step | a⟩
  · rw [hn] at h
    cases h
    rfl
  · rw [hn] at h
    cases h

/-- A dialogue that goes on waits for the call that it has just made, or for the same as before. -/
theorem advance_awaits {P : CallSpec S} (hP : sur.Makes setup now P) {spec : TopicSpec}
    {p p' : (Provisioning.provision spec).Progress S}
    (hc : ∀ c ∈ p.call, P.request ((Provisioning.provision spec).request p.step) c) {s' : S}
    (h : p.advance sur.admin sur.note setup.requestTimeout now s = (.inl p', s')) :
    ∀ c ∈ p'.call, P.request ((Provisioning.provision spec).request p'.step) c := by
  unfold Dialogue.Progress.advance at h
  rcases hcall : p.call with _ | c
  · -- the call is the one just made
    rw [hcall] at h
    cases h
    rintro c ⟨⟩
    exact hP.request _ s
  · rw [hcall] at h
    dsimp only at h
    by_cases ha : c.isAnswered now = true
    · rw [if_pos ha] at h
      rcases hf : c.finish s with ⟨answer | message, s₁⟩
      · rw [hf] at h
        rw [answered_call p answer h]
        rintro _ ⟨⟩
      · rw [hf] at h
        cases h
    · rw [if_neg ha] at h
      by_cases ho : c.isOverdue now = true
      · rw [if_pos ho] at h
        rw [answered_call p _ h]
        rintro _ ⟨⟩
      · -- the same call as before
        rw [if_neg ho] at h
        cases h
        exact hc

theorem advanceProvisioning_awaits {P : CallSpec S} (hP : sur.Makes setup now P)
    (spec : TopicSpec) (p : (Provisioning.provision spec).Progress S)
    (hc : ∀ c ∈ p.call, P.request ((Provisioning.provision spec).request p.step) c) :
    (st.advanceProvisioning setup sur now spec p s).1.Awaits P := by
  unfold LoopState.advanceProvisioning
  rcases hr : p.advance sur.admin sur.note setup.requestTimeout now s with
    ⟨p' | outcome | message, s'⟩
  · exact advance_awaits hP hc hr
  · exact beginRelease_awaits hP
  · trivial

/-- What holds of the calls that the loop makes holds of the one that it waits for after a step. -/
theorem step_awaits {P : CallSpec S} (hP : sur.Makes setup now P) (hc : st.Awaits P) :
    (st.step setup sur now s).1.Awaits P := by
  unfold LoopState.Awaits at hc
  unfold LoopState.step
  revert hc
  rcases hp : st.phase with _ | ⟨spec, p⟩ | call | ⟨nowMs, call⟩ | wake | _ | message
  · -- starting
    intro _
    rcases setup.topic? with _ | spec
    · exact iterate_awaits hP
    · rintro _ ⟨⟩
  · -- provisioning
    intro hc
    dsimp only
    split
    · split
      · exact advanceProvisioning_awaits hP spec p hc
      · exact beginRelease_awaits hP
    · exact advanceProvisioning_awaits hP spec p hc
  · -- releasing
    intro _
    dsimp only
    rcases Provisioning.finishRelease sur.note Provisioning.closeTimeout now call s with
      ⟨_ | message, s'⟩
    · exact iterate_awaits hP
    · trivial
  · -- flushing
    intro _
    dsimp only
    split
    · rcases call.finish s with ⟨answer | message, s'⟩
      · exact finishIteration_awaits nowMs
      · trivial
    · exact finishIteration_awaits nowMs
  · -- sleeping
    exact fun _ => iterate_awaits hP
  · -- exited
    intro _
    unfold LoopState.Awaits
    rw [hp]
    trivial
  · -- crashed
    intro _
    unfold LoopState.Awaits
    rw [hp]
    trivial

/-! #### Passes and the accounts of their iterations -/

/-- An iteration has begun and has not been accounted for; a crash may have come between. -/
def LoopState.IsOpen (st : LoopState S) : Prop :=
  match st.phase with
  | .flushing _ _ | .crashed _ => True
  | .starting | .provisioning _ _ | .releasing _ | .sleeping _ | .exited => False

theorem iterate_isOpen {t : Tick S} (h : st.passAt? setup sur now s = some t) :
    (st.iterate setup sur now s).1.IsOpen := by
  unfold LoopState.passAt? at h
  unfold LoopState.iterate
  by_cases hc : sur.cancelled s = true
  · rw [if_pos hc] at h
    cases h
  · rw [if_neg hc]
    rcases setup.clock.nowMs? now with _ | nowMs <;> trivial

/-- A pass opens an iteration. -/
theorem step_isOpen {t : Tick S} (h : st.event? setup sur now s = some (.tick t)) :
    (st.step setup sur now s).1.IsOpen := by
  unfold LoopState.event? at h
  unfold LoopState.step
  revert h
  rcases st.phase with _ | ⟨spec, p⟩ | call | ⟨nowMs, call⟩ | wake | _ | message
  · -- starting
    rcases setup.topic? with _ | spec
    · intro h
      obtain ⟨t', ht, -⟩ := Option.map_eq_some_iff.mp h
      exact iterate_isOpen ht
    · rintro ⟨⟩
  · -- provisioning: a quiet step
    rintro ⟨⟩
  · -- releasing
    dsimp only
    rcases Provisioning.finishRelease sur.note Provisioning.closeTimeout now call s with
      ⟨_ | message, s'⟩
    · intro h
      obtain ⟨t', ht, -⟩ := Option.map_eq_some_iff.mp h
      exact iterate_isOpen ht
    · rintro ⟨⟩
  · -- flushing: the event is an account
    dsimp only
    by_cases ha : call.isAnswered now = true
    · rw [if_pos ha]
      rcases call.finish s with ⟨answer | message, s'⟩ <;> rintro ⟨⟩
    · rw [if_neg ha]
      rintro ⟨⟩
  · -- sleeping
    intro h
    obtain ⟨t', ht, -⟩ := Option.map_eq_some_iff.mp h
    exact iterate_isOpen ht
  · rintro ⟨⟩
  · rintro ⟨⟩

/-- An open iteration is accounted for, unless the loop crashes. -/
theorem event?_of_isOpen (setup : LoopSetup) (ho : st.IsOpen)
    (hdue : st.isDue sur now s = true) :
    (∃ nowMs s', st.event? setup sur now s = some (.summary nowMs s')) ∨
      st.event? setup sur now s = none ∧ (st.step setup sur now s).1.IsOpen := by
  unfold LoopState.IsOpen at ho
  unfold LoopState.isDue at hdue
  unfold LoopState.event? LoopState.step
  revert ho hdue
  rcases st.phase with _ | ⟨spec, p⟩ | call | ⟨nowMs, call⟩ | wake | _ | message
  · rintro ⟨⟩
  · rintro ⟨⟩
  · rintro ⟨⟩
  · -- flushing: accounted for when the flush is over or interrupted
    intro _ _
    dsimp only
    by_cases ha : call.isAnswered now = true
    · rw [if_pos ha, if_pos ha]
      rcases call.finish s with ⟨answer | message, s'⟩
      · exact .inl ⟨_, _, rfl⟩
      · -- a flush that panics takes the loop with it
        exact .inr ⟨rfl, trivial⟩
    · rw [if_neg ha]
      exact .inl ⟨_, _, rfl⟩
  · rintro ⟨⟩
  · rintro ⟨⟩
  · rintro _ ⟨⟩

end Steps

end MetricFeed
