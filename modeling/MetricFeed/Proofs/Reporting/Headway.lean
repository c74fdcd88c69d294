/-
MetricFeed/Proofs/Reporting/Headway.lean

Whether a loop makes headway: whether each of its iterations begins at a later time than the one
before.  Nothing is asked of the passage of time here: a loop may wake up late, and nothing bounds
its uptime, its interval or the first time of its clock (`Chronicle`).

A deadline after the last time that fits in 64 bits becomes this last time, and a timer goes off no
later than thirty years after the origin of the clock.  So there is a last time for which a timer
can be set (`Clock.lastTimerMs`).  Up to it a loop makes headway.  From then on its timers are over
when they are set, and it does not sleep at all.

* `Clock.shown_at_timer` : what the clock shows when a timer goes off;
* `passDue_iff_or` : a pass is due when its interval is over, and whenever the clock shows the last
  time that fits in 64 bits, whether or not the interval is over;
* `Kept.step` : what a step of the loop does to the account of its iterations.

Main result (`Chronicle.headway`): the times of iterations, passes and timers, and when a loop
panics because its clock has run out.
-/
import MetricFeed.Proofs.Reporting.FirstPass

namespace MetricFeed

variable {S H : Type}

/-! ### Clocks near their end -/

namespace Clock

variable {c : Clock} {now : Nat} {t : Int64}

/-- The last time for which a timer can be set. -/
def lastTimerMs (c : Clock) : Int :=
  min (greatestMillis : Int) (c.originMs.toInt + farFuture.wholeMillis)

/-- **What the clock shows when a timer goes off**: the deadline, or the last time for which a timer
can be set if this comes first. -/
theorem shown_at_timer (h : c.originMs.toInt ≤ t.toInt) (ms : Nat) :
    c.originMs.toInt + c.millisAt (roundUpToMilli (c.instantAt (addMs t ms))) =
      min (t.toInt + ms) c.lastTimerMs := by
  have hdeadline := toInt_addMs_eq_min t ms
  have hbound := toInt_le_greatestMillis t
  rw [instantAt_eq, millisAt_roundUpToMilli, hdeadline, lastTimerMs]
  omega

end Clock

/-- A pass is due when its interval is over, or else at the last time that fits in 64 bits. -/
theorem passDue_iff_or {setup : LoopSetup} {st : LoopState S} {nowMs : Int64} :
    st.passDue setup nowMs = true ↔
      st.lastPass.toInt + setup.intervalMs ≤ nowMs.toInt ∨ nowMs.toInt = greatestMillis := by
  have hbound := toInt_le_greatestMillis nowMs
  unfold LoopState.passDue
  rw [decide_eq_true_iff, Int64.le_iff_toInt_le, toInt_addMs_eq_min]
  omega

/-! ### Chronicles -/

/-- The course of a loop that gets its clock at the instant `given`, with an account of its
iterations, where time passes as it pleases. -/
inductive Chronicle (setup : LoopSetup) (sur : Surroundings S H) (others : S → S → Prop)
    (given : Nat) (s₀ : S) : Nat → List (Iteration S) → LoopState S → S → Prop
  | start : Chronicle setup sur others given s₀ given [] (setup.initial S given) s₀
  | wait {now later : Nat} {its : List (Iteration S)} {st : LoopState S} {s s' : S} :
    Chronicle setup sur others given s₀ now its st s → now ≤ later → others s s' →
    Chronicle setup sur others given s₀ later its st s'
  | step {now : Nat} {its : List (Iteration S)} {st : LoopState S} {s : S} :
    Chronicle setup sur others given s₀ now its st s → st.isDue sur now s = true →
    Chronicle setup sur others given s₀ now
      (Iteration.enter now (st.step setup sur now s).1 (st.event? setup sur now s) its)
      (st.step setup sur now s).1 (st.step setup sur now s).2

section Chronicles

variable {setup : LoopSetup} {sur : Surroundings S H} {others : S → S → Prop} {given now : Nat}
variable {s₀ s : S} {its : List (Iteration S)} {st : LoopState S}

/-- A loop that is never late has a timetable as well. -/
theorem Timetable.chronicle (h : Timetable setup sur others given s₀ now its st s) :
    Chronicle setup sur others given s₀ now its st s := by
  induction h with
  | start => exact .start
  | wait _ hle _ hothers ih => exact ih.wait hle hothers
  | step _ hdue ih => exact ih.step hdue

theorem Chronicle.course (h : Chronicle setup sur others given s₀ now its st s) :
    ∃ history, Course setup sur others s₀ now history st s := by
  induction h with
  | start => exact ⟨[], .start given⟩
  | wait _ hle hothers ih =>
    obtain ⟨history, hcourse⟩ := ih
    exact ⟨history, hcourse.wait hle hothers⟩
  | step _ hdue ih =>
    obtain ⟨history, hcourse⟩ := ih
    exact ⟨_, hcourse.step hdue⟩

/-! ### The account of the iterations -/

/-- The time of the last pass of iterations, the latest first, or else the time when the loop got
its clock. -/
def lastPassMs (givenMs : Int64) (its : List (Iteration S)) : Int64 :=
  ((its.filterMap (·.tick?)).head?.map (·.nowMs)).getD givenMs

/-- How an iteration follows on earlier ones, the latest first. -/
structure Iteration.Follows (setup : LoopSetup) (givenMs : Int64) (earlier : List (Iteration S))
    (it : Iteration S) : Prop where
  shown : it.nowMs.toInt = setup.clock.originMs.toInt + setup.clock.millisAt it.begunAt
  after : ∀ last, earlier.head? = some last →
    min (last.nowMs.toInt + setup.intervalMs) setup.clock.lastTimerMs ≤ it.nowMs.toInt
  passes : it.tick?.isSome ↔
    (lastPassMs givenMs earlier).toInt + setup.intervalMs ≤ it.nowMs.toInt ∨
      it.nowMs.toInt = greatestMillis

/-- Each of the iterations, the latest first, follows on the ones before. -/
def Kept (setup : LoopSetup) (givenMs : Int64) : List (Iteration S) → Prop
  | [] => True
  | it :: earlier => it.Follows setup givenMs earlier ∧ Kept setup givenMs earlier

theorem Kept.follows {givenMs : Int64} {it : Iteration S} {earlier : List (Iteration S)}
    (h : Kept setup givenMs its) (hsuffix : it :: earlier <:+ its) :
    it.Follows setup givenMs earlier := by
  induction its with
  | nil => cases List.suffix_nil.mp hsuffix
  | cons last before ih =>
    rcases List.suffix_cons_iff.mp hsuffix with heq | hbefore
    · cases heq
      exact h.1
    · exact ih h.2 hbefore

/-- Where a loop stands after iterations, the latest first. -/
def LoopState.Stands (setup : LoopSetup) (givenMs : Int64) (now : Nat) (its : List (Iteration S))
    (st : LoopState S) : Prop :=
  match st.phase with
  | .starting | .provisioning _ _ | .releasing _ => its = [] ∧ st.lastPass = givenMs
  | .flushing nowMs call =>
    (∃ it earlier, its = it :: earlier ∧ it.nowMs = nowMs ∧ it.begunAt ≤ now) ∧
      st.lastPass = lastPassMs givenMs its ∧
      ∀ s message, (call.finish s).1 ≠ .panicked message
  | .sleeping wake =>
    (∃ it earlier, its = it :: earlier ∧
      wake = roundUpToMilli (setup.clock.instantAt (addMs it.nowMs setup.intervalMs))) ∧
      st.lastPass = lastPassMs givenMs its
  | .exited | .crashed _ => True

theorem stands_iff_of_early {givenMs : Int64} (h : st.IsPreparing ∨ st.IsProvisioned) :
    st.Stands setup givenMs now its ↔ its = [] ∧ st.lastPass = givenMs := by
  unfold LoopState.Stands
  rcases h with hprep | hprov
  · obtain hphase | ⟨spec, p, hphase⟩ := isPreparing_iff.mp hprep
    · rw [hphase]
    · rw [hphase]
  · obtain ⟨spec, p, hphase⟩ | ⟨call, hphase⟩ := isProvisioned_iff.mp hprov
    · rw [hphase]
    · rw [hphase]

theorem stands_iff_of_flushing {givenMs nowMs : Int64} {call : Call S (Except PublishFault Unit)}
    (hphase : st.phase = .flushing nowMs call) :
    st.Stands setup givenMs now its ↔
      (∃ it earlier, its = it :: earlier ∧ it.nowMs = nowMs ∧ it.begunAt ≤ now) ∧
        st.lastPass = lastPassMs givenMs its ∧
        ∀ s message, (call.finish s).1 ≠ .panicked message := by
  unfold LoopState.Stands
  rw [hphase]

theorem stands_iff_of_sleeping {givenMs : Int64} {wake : Nat}
    (hphase : st.phase = .sleeping wake) :
    st.Stands setup givenMs now its ↔
      (∃ it earlier, its = it :: earlier ∧
        wake = roundUpToMilli (setup.clock.instantAt (addMs it.nowMs setup.intervalMs))) ∧
        st.lastPass = lastPassMs givenMs its := by
  unfold LoopState.Stands
  rw [hphase]

/-- An iteration that begins follows on the ones before. -/
theorem Kept.begins {givenMs nowMs : Int64} {t? : Option (Tick S)} (h : Kept setup givenMs its)
    (hstands : st.Stands setup givenMs now its) (hbetween : st.IsBetween)
    (hwoken : ∀ wake, st.phase = .sleeping wake → wake ≤ now)
    (hclock : setup.clock.nowMs? now = some nowMs)
    (huptime : setup.clock.millisAt now ≤ greatestMillis)
    (ht : t?.isSome ↔ st.passDue setup nowMs = true) :
    st.lastPass = lastPassMs givenMs its ∧ Kept setup givenMs (⟨now, nowMs, t?, none⟩ :: its) := by
  have hshown := Clock.toInt_of_nowMs? hclock huptime
  have hlast : st.lastPass = lastPassMs givenMs its ∧ ∀ last, its.head? = some last →
      min (last.nowMs.toInt + setup.intervalMs) setup.clock.lastTimerMs ≤ nowMs.toInt := by
    obtain hphase | ⟨call, hphase⟩ | ⟨wake, hphase⟩ := isBetween_iff.mp hbetween
    · have hearly := isPreparing_iff.mpr (.inl hphase)
      obtain ⟨rfl, hlast⟩ := (stands_iff_of_early (.inl hearly)).mp hstands
      exact ⟨hlast, fun _ hnone => by cases hnone⟩
    · have hearly := isProvisioned_iff.mpr (.inr ⟨call, hphase⟩)
      obtain ⟨rfl, hlast⟩ := (stands_iff_of_early (.inr hearly)).mp hstands
      exact ⟨hlast, fun _ hnone => by cases hnone⟩
    · -- the timer of the last iteration has gone off
      obtain ⟨⟨it, earlier, rfl, rfl⟩, hlast⟩ := (stands_iff_of_sleeping hphase).mp hstands
      refine ⟨hlast, ?_⟩
      rintro _ ⟨⟩
      have hit := h.1.shown
      have htimer := Clock.shown_at_timer (c := setup.clock) (t := it.nowMs) (by omega)
        setup.intervalMs
      have hmono := Clock.millisAt_mono (c := setup.clock) (hwoken _ hphase)
      omega
  refine ⟨hlast.1, ⟨hshown, hlast.2, ?_⟩, h⟩
  rw [ht, passDue_iff_or, hlast.1]

/-- A pass is the last one from the iteration on that makes it. -/
theorem lastPassMs_cons (givenMs : Int64) (it : Iteration S) (earlier : List (Iteration S)) :
    lastPassMs givenMs (it :: earlier) =
      (it.tick?.map (·.nowMs)).getD (lastPassMs givenMs earlier) := by
  unfold lastPassMs
  cases htick : it.tick? with
  | none => rw [List.filterMap_cons_none htick]; rfl
  | some t => rw [List.filterMap_cons_some htick]; rfl

/-- **A step keeps the account of the iterations.** -/
theorem Kept.step {givenMs : Int64} (h : Kept setup givenMs its)
    (hstands : st.Stands setup givenMs now its) (hsur : sur.Undisturbed)
    (huptime : setup.clock.millisAt now ≤ greatestMillis) {e? : Option (LoopEvent S)}
    {st' : LoopState S} {s' : S} (hstride : Stride setup sur (fun _ _ => True) now st s e? st' s') :
    Kept setup givenMs (Iteration.enter now st' e? its) ∧
      st'.Stands setup givenMs now (Iteration.enter now st' e? its) := by
  cases hstride with
  | provisions hprep _ hprov heq =>
    obtain ⟨hits, hlast⟩ := (stands_iff_of_early (.inl hprep)).mp hstands
    rw [enter_of_isProvisioned hprov]
    refine ⟨h, (stands_iff_of_early (.inr hprov)).mpr ⟨hits, ?_⟩⟩
    rw [heq]
    exact hlast
  | @begins nowMs s₁ s₂ _ _ hbetween hwoken _ _ hclock hphase hlast =>
    -- the event of the step is the pass, if one is due
    have htick : ((if st.passDue setup nowMs then
        some (.tick ⟨nowMs, st.rates, sur.note (.reportingAt nowMs) s₁⟩)
        else none : Option (LoopEvent S)).bind LoopEvent.tick?).isSome ↔
          st.passDue setup nowMs = true := by
      split
      · simp [LoopEvent.tick?, *]
      · simp [*]
    rw [enter_of_flushing hphase]
    obtain ⟨hpast, hkept⟩ := h.begins hstands hbetween hwoken hclock huptime htick
    refine ⟨hkept, (stands_iff_of_flushing hphase).mpr
      ⟨⟨_, its, rfl, rfl, Nat.le_refl _⟩, ?_, fun s => hsur.answers s₂ s⟩⟩
    rw [hlast, lastPassMs_cons, ← hpast]
    split
    · rfl
    · rfl
  | @ends nowMs endMs call s₁ _ _ hphase _ hphase' hlast =>
    -- the iteration is the same, with a flush that is over
    obtain ⟨⟨it, earlier, rfl, rfl, -⟩, hpast, -⟩ := (stands_iff_of_flushing hphase).mp hstands
    have henter : Iteration.enter now st' (some (.summary it.nowMs s₁)) (it :: earlier) =
        { it with flushedAt? := some now } :: earlier := by
      unfold Iteration.enter
      rw [hphase']
    rw [henter]
    refine ⟨⟨⟨h.1.shown, h.1.after, h.1.passes⟩, h.2⟩,
      (stands_iff_of_sleeping hphase').mpr ⟨⟨_, _, rfl, rfl⟩, ?_⟩⟩
    rw [hlast, hpast, lastPassMs_cons, lastPassMs_cons]
  -- where a loop has ended, nothing is asked of it
  | exits => exact ⟨h, trivial⟩
  | crashes _ hphase _ =>
    unfold Iteration.enter LoopState.Stands
    rw [hphase]
    exact ⟨h, trivial⟩
  | runsOut _ _ hphase _ _ =>
    unfold Iteration.enter LoopState.Stands
    rw [hphase]
    exact ⟨h, trivial⟩

/-- A loop goes on standing where it stands while time passes. -/
theorem LoopState.Stands.later {givenMs : Int64} {later : Nat}
    (h : st.Stands setup givenMs now its) (hle : now ≤ later) :
    st.Stands setup givenMs later its := by
  unfold LoopState.Stands at h ⊢
  rcases hphase : st.phase with _ | _ | _ | ⟨nowMs, call⟩ | _ | _ | _ <;> rw [hphase] at h
  · exact h
  · exact h
  · exact h
  · obtain ⟨⟨it, earlier, hits, hnowMs, hbegun⟩, hlast, hanswers⟩ := h
    exact ⟨⟨it, earlier, hits, hnowMs, Nat.le_trans hbegun hle⟩, hlast, hanswers⟩
  · exact h
  · exact h
  · exact h

/-- **Throughout a chronicle, the iterations follow on each other.** -/
theorem Chronicle.kept {givenMs : Int64} (h : Chronicle setup sur others given s₀ now its st s)
    (hsur : sur.Undisturbed) (hgiven : setup.clock.nowMs? given = some givenMs)
    (huptime : setup.clock.millisAt now ≤ greatestMillis) :
    Kept setup givenMs its ∧ st.Stands setup givenMs now its := by
  induction h with
  | start =>
    unfold LoopSetup.initial
    rw [hgiven]
    exact ⟨trivial, rfl, rfl⟩
  | wait _ hle _ ih =>
    obtain ⟨hkept, hstands⟩ := ih (Nat.le_trans (Clock.millisAt_mono hle) huptime)
    exact ⟨hkept, hstands.later hle⟩
  | step hbefore hdue ih =>
    obtain ⟨hkept, hstands⟩ := ih huptime
    -- the chronicle's step is a stride of some course
    obtain ⟨_, hcourse⟩ := hbefore.course
    exact hkept.step hstands hsur huptime (hcourse.strides hdue)

/-! ### When the clock runs out -/

/-- The next step begins an iteration or ends one. -/
def LoopState.IsAtWork (setup : LoopSetup) (now : Nat) (st : LoopState S) (s : S) : Prop :=
  st.IsReady setup now s ∨ (∃ nowMs call, st.phase = .flushing nowMs call) ∨
    ∃ wake, st.phase = .sleeping wake

/-- A loop that is at work does not panic. -/
theorem LoopState.IsAtWork.not_panics {givenMs : Int64} (h : st.IsAtWork setup now s)
    (hstands : st.Stands setup givenMs now its) (message : String) :
    ¬ st.Panics sur now s message := by
  obtain hready | ⟨nowMs, call, hphase⟩ | ⟨wake, hphase⟩ := h
  · exact not_panics_of_isReady hready message
  · obtain ⟨-, -, hanswers⟩ := (stands_iff_of_flushing hphase).mp hstands
    intro hpanics
    cases hpanics with
    | provisioning hphase' _ _ _ _ => cases hphase.symm.trans hphase'
    | releasing hphase' _ _ => cases hphase.symm.trans hphase'
    | flushing hphase' _ hfinish =>
      cases hphase.symm.trans hphase'
      exact hanswers s message hfinish
  · -- nothing is waited for but the time
    intro hpanics
    cases hpanics with
    | provisioning hphase' _ _ _ _ => cases hphase.symm.trans hphase'
    | releasing hphase' _ _ => cases hphase.symm.trans hphase'
    | flushing hphase' _ _ => cases hphase.symm.trans hphase'

/-- A loop that is at work has nothing to provision any more. -/
theorem LoopState.IsAtWork.not_isPreparing (h : st.IsAtWork setup now s)
    (hstarting : st.phase = .starting → setup.topic?.isSome) : ¬ st.IsPreparing := by
  unfold LoopState.IsPreparing
  obtain hready | ⟨nowMs, call, hphase⟩ | ⟨wake, hphase⟩ := h
  · obtain ⟨hphase, htopic⟩ | ⟨call, hphase, -⟩ := isReady_iff.mp hready
    · have hsome := hstarting hphase
      rw [htopic] at hsome
      cases hsome
    · rw [hphase]
      exact id
  · rw [hphase]
    exact id
  · rw [hphase]
    exact id

/-- A step that begins an iteration or ends one is the last exactly if the clock has run out. -/
theorem LoopState.IsAtWork.crashed_iff {givenMs : Int64} (h : st.IsAtWork setup now s)
    (hstands : st.Stands setup givenMs now its) (hsur : sur.Undisturbed)
    (huptime : setup.clock.millisAt now ≤ greatestMillis) {e? : Option (LoopEvent S)}
    {st' : LoopState S} {s' : S} (hstride : Stride setup sur (fun _ _ => True) now st s e? st' s')
    (message : String) :
    st'.phase = .crashed message ↔ message = Clock.runOut ∧
      (greatestMillis : Int) < setup.clock.originMs.toInt + setup.clock.millisAt now := by
  rw [← Clock.nowMs?_eq_none_iff huptime]
  constructor
  · intro hcrashed
    rcases hstride.crashed hcrashed with hpanics | ⟨hnone, hmessage⟩
    · exact absurd hpanics (h.not_panics hstands message)
    · exact ⟨hmessage, hnone⟩
  · rintro ⟨rfl, hnone⟩
    cases hstride with
    | provisions hprep hstarting _ _ => exact absurd hprep (h.not_isPreparing hstarting)
    | begins _ _ _ _ hclock _ _ => cases hnone.symm.trans hclock
    | ends _ hclock _ _ => cases hnone.symm.trans hclock
    | exits _ _ hcancelled => cases (hsur.running _).symm.trans hcancelled
    | crashes hpanics _ _ => exact absurd hpanics (h.not_panics hstands _)
    | runsOut _ _ hphase _ _ => exact hphase

/-- The duration of an iteration is computed without overflow. -/
theorem LoopState.Stands.toInt_sub {givenMs nowMs endMs : Int64}
    {call : Call S (Except PublishFault Unit)} (h : st.Stands setup givenMs now its)
    (hkept : Kept setup givenMs its) (hphase : st.phase = .flushing nowMs call)
    (hend : setup.clock.nowMs? now = some endMs)
    (huptime : setup.clock.millisAt now ≤ greatestMillis) :
    (endMs - nowMs).toInt = endMs.toInt - nowMs.toInt := by
  obtain ⟨⟨it, earlier, rfl, rfl, hbegun⟩, -, -⟩ := (stands_iff_of_flushing hphase).mp h
  have hshown := hkept.1.shown
  have hshows := Clock.toInt_of_nowMs? hend huptime
  have hmono := Clock.millisAt_mono (c := setup.clock) hbegun
  unfold greatestMillis at huptime
  rw [Int64.toInt_sub, Int.bmod_eq_of_le]
  · omega
  · omega

/-! ### Headway -/

/-- **Headway.**  Take a chronicle of a loop that nobody stops, with any interval of at least a
millisecond, and any origin, uptime and lateness.

* An iteration reads off its clock exactly how much time has passed.
* An iteration begins no earlier than one interval after the one before, or the last time for which
  a timer can be set; so it begins at a later time if the one before began ahead of that time.
* A loop goes to sleep until one interval after its iteration, or the last time for which a timer
  can be set; so it sleeps at all exactly if its iteration began ahead of that time.
* An iteration makes a pass exactly if one interval is over since the last pass, or its clock shows
  the last time that fits in 64 bits.
* Where an iteration begins or ends, the loop panics exactly if its clock has run out by then.
* The duration of an iteration is computed without overflow. -/
theorem Chronicle.headway {givenMs : Int64} (h : Chronicle setup sur others given s₀ now its st s)
    (hsur : sur.Undisturbed) (hgiven : setup.clock.nowMs? given = some givenMs)
    (hinterval : 1 ≤ setup.intervalMs) (huptime : setup.clock.millisAt now ≤ greatestMillis) :
    (∀ it earlier, it :: earlier <:+ its →
      it.nowMs.toInt = setup.clock.originMs.toInt + setup.clock.millisAt it.begunAt) ∧
    (∀ next it earlier, next :: it :: earlier <:+ its →
      min (it.nowMs.toInt + setup.intervalMs) setup.clock.lastTimerMs ≤ next.nowMs.toInt ∧
      (it.nowMs.toInt < setup.clock.lastTimerMs → it.nowMs.toInt < next.nowMs.toInt)) ∧
    (∀ wake, st.phase = .sleeping wake → ∃ it earlier, its = it :: earlier ∧
      setup.clock.originMs.toInt + setup.clock.millisAt wake =
        min (it.nowMs.toInt + setup.intervalMs) setup.clock.lastTimerMs ∧
      (it.nowMs.toInt < setup.clock.originMs.toInt + setup.clock.millisAt wake ↔
        it.nowMs.toInt < setup.clock.lastTimerMs)) ∧
    (∀ it earlier, it :: earlier <:+ its → (it.tick?.isSome ↔
      (lastPassMs givenMs earlier).toInt + setup.intervalMs ≤ it.nowMs.toInt ∨
        it.nowMs.toInt = greatestMillis)) ∧
    (st.isDue sur now s = true → st.IsAtWork setup now s → ∀ message,
      (st.step setup sur now s).1.phase = .crashed message ↔ message = Clock.runOut ∧
        (greatestMillis : Int) < setup.clock.originMs.toInt + setup.clock.millisAt now) ∧
    (∀ nowMs call endMs, st.phase = .flushing nowMs call →
      setup.clock.nowMs? now = some endMs →
        (endMs - nowMs).toInt = endMs.toInt - nowMs.toInt) := by
  obtain ⟨hkept, hstands⟩ := h.kept hsur hgiven huptime
  refine ⟨fun it earlier hit => (hkept.follows hit).shown, fun next it earlier hnext => ?_,
    fun wake hphase => ?_, fun it earlier hit => (hkept.follows hit).passes,
    fun hdue hwork => ?_, fun nowMs call endMs hphase hend => ?_⟩
  · have hafter := (hkept.follows hnext).after it rfl
    exact ⟨hafter, fun hbefore => by omega⟩
  · obtain ⟨⟨it, earlier, rfl, rfl⟩, -⟩ := (stands_iff_of_sleeping hphase).mp hstands
    have hshown := hkept.1.shown
    have htimer := Clock.shown_at_timer (c := setup.clock) (t := it.nowMs) (by omega)
      setup.intervalMs
    refine ⟨it, earlier, rfl, htimer, ?_⟩
    rw [htimer]
    omega
  · obtain ⟨_, hcourse⟩ := h.course
    exact hwork.crashed_iff hstands hsur huptime (hcourse.strides hdue)
  · exact hstands.toInt_sub hkept hphase hend huptime

end Chronicles

/-! ### Where headway ends -/

theorem undisturbed_quiet : (Surroundings.quiet Unit).Undisturbed :=
  ⟨fun _ => rfl, fun _ => rfl, by rintro _ _ _ ⟨⟩⟩

/-- A loop that wakes up two milliseconds late makes headway, and its pass. -/
theorem headway_of_quiet :
    ∃ next first st s, Chronicle .everyMilli (.quiet Unit) Eq 0 () 3000000 [next, first] st s ∧
      first.nowMs.toInt < next.nowMs.toInt ∧ next.tick?.isSome := by
  have h : Chronicle .everyMilli (.quiet Unit) Eq 0 () 3000000 _ _ _ :=
    (((Chronicle.start.step rfl).step rfl).wait (show 0 ≤ 3000000 by decide) rfl).step (by decide)
  obtain ⟨-, hheadway, -, hpasses, -⟩ :=
    h.headway undisturbed_quiet rfl (by decide) (by decide)
  refine ⟨_, _, _, _, h, ?_, ?_⟩
  · exact (hheadway _ _ _ (List.suffix_refl _)).2 (by decide)
  · exact (hpasses _ _ (List.suffix_refl _)).mpr (.inl (by decide))

/-- A loop whose clock shows the last but one time that fits in 64 bits. -/
def LoopSetup.waning : LoopSetup :=
  { nodeId := 0, interval := .ofMillis 2, clock := ⟨9223372036854775806, 0⟩ }

/-- A loop with an iteration every thirty years. -/
def LoopSetup.generational : LoopSetup :=
  { nodeId := 0, interval := .ofSeconds (86400 * 365 * 30), clock := ⟨0, 0⟩ }

/-- **Loops that make no headway**, although nobody disturbs them.  At the last time that fits in 64
bits, a pass is due whose interval is not over, iterations begin again and again, and a millisecond
later the loop panics.  After thirty years, iterations begin again and again at one time, even if
the loop is never late.  And when more milliseconds have passed than 64 bits can count, the clock
starts over. -/
theorem no_headway :
    (Surroundings.quiet Unit).Undisturbed ∧
    1 ≤ LoopSetup.waning.intervalMs ∧ 1 ≤ LoopSetup.generational.intervalMs ∧
    1 ≤ LoopSetup.everyMilli.intervalMs ∧
    (∃ again last first st,
      Chronicle .waning (.quiet Unit) Eq 0 () 2000000 [again, last, first] st () ∧
      (greatestMillis : Int) < first.nowMs.toInt + LoopSetup.waning.intervalMs ∧
      first.tick?.isSome = false ∧ last.tick?.isSome = true ∧ again.nowMs = last.nowMs ∧
      (st.step .waning (.quiet Unit) 2000000 ()).1.phase = .crashed Clock.runOut) ∧
    (∃ again last first st,
      Timetable .generational (.quiet Unit) Eq 0 () 946080000000000000 [again, last, first] st () ∧
      again.nowMs = last.nowMs) ∧
    ∃ next first st,
      Chronicle .everyMilli (.quiet Unit) Eq 0 () 9223372036854775808000000 [next, first] st () ∧
      next.nowMs < first.nowMs := by
  have hlast : Chronicle .waning (.quiet Unit) Eq 0 () 1000000 _ _ _ :=
    (((Chronicle.start.step rfl).step rfl).wait (show 0 ≤ 1000000 by decide) rfl).step (by decide)
  have hwaning : Chronicle .waning (.quiet Unit) Eq 0 () 2000000 _ _ _ :=
    ((hlast.step (by decide)).step (by decide)).wait (show 1000000 ≤ 2000000 by decide) rfl
  have hthirty : Timetable .generational (.quiet Unit) Eq 0 () 946080000000000000 _ _ _ :=
    (((Timetable.start.step rfl).step rfl).wait (show 0 ≤ 946080000000000000 by decide)
      (by rintro _ ⟨⟩; decide) rfl).step (by decide)
  have hover : Chronicle .everyMilli (.quiet Unit) Eq 0 () 9223372036854775808000000 _ _ _ :=
    (((Chronicle.start.step rfl).step rfl).wait (Nat.zero_le _) rfl).step (by decide)
  refine ⟨undisturbed_quiet, by decide, by decide, by decide, ?_, ?_, ?_⟩
  · exact ⟨_, _, _, _, hwaning, by decide, by decide, by decide, by decide, rfl⟩
  · exact ⟨_, _, _, _, (hthirty.step (by decide)).step (by decide), by decide⟩
  · exact ⟨_, _, _, hover, by decide⟩

end MetricFeed
