/-
MetricFeed/Proofs/Reporting/FirstPass.lean

When a loop makes its first pass.  A pass is due one interval after the loop has got its clock.  But
the loop looks whether one is due only when it begins an iteration, and then sleeps until one
interval after this beginning.  The first iteration begins with the step that ends the provisioning
(`LoopState.IsReady`).  So if the provisioning takes some time, but not as long as the interval,
then the pass that becomes due in the meantime is made late: one interval after the end of the
provisioning.

* `Timetable.Prepared` : the timetable of a loop, with the instant that ended its preparation;
* `Timetable.Prepared.unhindered` : as long as nobody tells the loop to stop, and flushes take no
  time, the loop flushes or sleeps, and does neither any longer than it has to;
* `Spaced.first_tick` : the first pass is made in the first iteration or in the second.

Main result (`Timetable.Prepared.first_pass`): the time of the first pass, that it is made by then,
and when it is made as soon as it is due.
-/
import MetricFeed.Proofs.Reporting.Timetable

namespace MetricFeed

variable {S H : Type}

/-! ### What is relied on -/

/-- Nobody tells the loop to stop, and its flushes are answered at once, without a panic. -/
structure Surroundings.Undisturbed (sur : Surroundings S H) : Prop where
  running : ∀ s, sur.cancelled s = false
  flush : ∀ s, (sur.channel.producer.flush s).1.delay = some ⟨0⟩
  answers : ∀ s s' message, ((sur.channel.producer.flush s).1.finish s').1 ≠ .panicked message

/-- The next step ends the preparation of the loop: there is no topic to be provisioned, or the
client that has provisioned it has been closed, or has been given up. -/
def LoopState.IsReady (setup : LoopSetup) (now : Nat) (st : LoopState S) (s : S) : Prop :=
  match st.phase with
  | .starting => setup.topic? = none
  | .releasing call => call.isDue now = true ∧
    (call.isAnswered now = true → ∀ message, (call.finish s).1 ≠ .panicked message)
  | .provisioning _ _ | .flushing _ _ | .sleeping _ | .exited | .crashed _ => False

/-- What comes of a timetable from one moment on. -/
inductive Timetable.Later (setup : LoopSetup) (sur : Surroundings S H) (others : S → S → Prop)
    (now₀ : Nat) (its₀ : List (Iteration S)) (st₀ : LoopState S) (s₀ : S) :
    Nat → List (Iteration S) → LoopState S → S → Prop
  | refl : Later setup sur others now₀ its₀ st₀ s₀ now₀ its₀ st₀ s₀
  | wait {now later : Nat} {its : List (Iteration S)} {st : LoopState S} {s s' : S} :
    Later setup sur others now₀ its₀ st₀ s₀ now its st s → now ≤ later →
    (∀ wake, st.wake? = some wake → later ≤ max now wake) → others s s' →
    Later setup sur others now₀ its₀ st₀ s₀ later its st s'
  | step {now : Nat} {its : List (Iteration S)} {st : LoopState S} {s : S} :
    Later setup sur others now₀ its₀ st₀ s₀ now its st s → st.isDue sur now s = true →
    Later setup sur others now₀ its₀ st₀ s₀ now
      (Iteration.enter now (st.step setup sur now s).1 (st.event? setup sur now s) its)
      (st.step setup sur now s).1 (st.step setup sur now s).2

/-- The timetable of a loop whose preparation was over at the instant `ended`: it was ready by then,
took the step that ended the preparation, and went on. -/
def Timetable.Prepared (setup : LoopSetup) (sur : Surroundings S H) (others : S → S → Prop)
    (given : Nat) (s₀ : S) (ended now : Nat) (its : List (Iteration S)) (st : LoopState S) (s : S) :
    Prop :=
  ∃ st₁ s₁, Timetable setup sur others given s₀ ended [] st₁ s₁ ∧ st₁.IsReady setup ended s₁ ∧
    Timetable.Later setup sur others ended
      (Iteration.enter ended (st₁.step setup sur ended s₁).1 (st₁.event? setup sur ended s₁) [])
      (st₁.step setup sur ended s₁).1 (st₁.step setup sur ended s₁).2 now its st s

section Strides

variable {setup : LoopSetup} {sur : Surroundings S H} {now : Nat} {st st' : LoopState S} {s s' : S}
variable {e? : Option (LoopEvent S)}

/-! ### Steps that nobody disturbs -/

theorem isReady_iff :
    st.IsReady setup now s ↔
      st.phase = .starting ∧ setup.topic? = none ∨
      ∃ call, st.phase = .releasing call ∧ call.isDue now = true ∧
        (call.isAnswered now = true → ∀ message, (call.finish s).1 ≠ .panicked message) := by
  unfold LoopState.IsReady
  rcases st.phase with _ | _ | _ | _ | _ | _ | _ <;> simp

theorem isDue_of_isReady (h : st.IsReady setup now s) : st.isDue sur now s = true := by
  unfold LoopState.isDue
  obtain ⟨hphase, -⟩ | ⟨call, hphase, hdue, -⟩ := isReady_iff.mp h
  · rw [hphase]
  · rw [hphase]
    exact hdue

theorem isBetween_of_isReady (h : st.IsReady setup now s) : st.IsBetween := by
  rw [isBetween_iff]
  obtain ⟨hphase, -⟩ | ⟨call, hphase, -⟩ := isReady_iff.mp h
  · exact .inl hphase
  · exact .inr (.inl ⟨call, hphase⟩)

theorem topic?_of_isReady (h : st.IsReady setup now s) (hphase : st.phase = .starting) :
    setup.topic? = none := by
  obtain ⟨-, htopic⟩ | ⟨call, hphase', -⟩ := isReady_iff.mp h
  · exact htopic
  · rw [hphase] at hphase'
    cases hphase'

/-- A loop that is ready does not panic. -/
theorem not_panics_of_isReady (h : st.IsReady setup now s) (message : String) :
    ¬ st.Panics sur now s message := by
  unfold LoopState.IsReady at h
  intro hpanics
  cases hpanics with
  | provisioning hphase _ _ _ _ =>
    rw [hphase] at h
    exact h
  | releasing hphase hanswered hfinish =>
    rw [hphase] at h
    exact h.2 hanswered message hfinish
  | flushing hphase _ _ =>
    rw [hphase] at h
    exact h

/-- Where a loop stands whose flushes take no time. -/
def LoopState.Proceeds (now : Nat) (its : List (Iteration S)) (st : LoopState S) : Prop :=
  match st.phase with
  | .flushing _ call =>
    call.wake? = some now ∧ (∀ s message, (call.finish s).1 ≠ .panicked message) ∧
      ∃ it earlier, its = it :: earlier ∧ it.begunAt = now
  | .sleeping _ => True
  | .starting | .provisioning _ _ | .releasing _ | .exited | .crashed _ => False

/-- Between two iterations the next one begins, if the clock can be read. -/
theorem Stride.begins_undisturbed (hsur : sur.Undisturbed)
    (h : Stride setup sur (fun _ _ => True) now st s e? st' s') (hbetween : st.IsBetween)
    (htopic : st.phase = .starting → setup.topic? = none)
    (hpanics : ∀ message, ¬ st.Panics sur now s message) {nowMs : Int64}
    (hclock : setup.clock.nowMs? now = some nowMs) (its : List (Iteration S)) :
    Iteration.enter now st' e? its = ⟨now, nowMs, e?.bind LoopEvent.tick?, none⟩ :: its ∧
      st'.Proceeds now (Iteration.enter now st' e? its) := by
  cases h with
  | provisions hprep hstarting _ _ =>
    rcases isPreparing_iff.mp hprep with hphase | ⟨spec, p, hphase⟩
    · have hsome := hstarting hphase
      rw [htopic hphase] at hsome
      cases hsome
    · unfold LoopState.IsBetween at hbetween
      rw [hphase] at hbetween
      cases hbetween
  | @begins nowMs' s₁ s₂ _ _ _ _ _ _ hclock' hphase _ =>
    rw [hclock] at hclock'
    cases hclock'
    have henter : Iteration.enter now st'
        (if st.passDue setup nowMs then
          some (.tick ⟨nowMs, st.rates, sur.note (.reportingAt nowMs) s₁⟩) else none) its = _ :=
      enter_of_flushing hphase
    refine ⟨henter, ?_⟩
    unfold LoopState.Proceeds
    rw [hphase]
    refine ⟨?_, fun s => hsur.answers s₂ s, _, _, henter, rfl⟩
    simp [Flight.await, Call.wake?, hsur.flush, Call.earlier, timerAt]
  | ends hphase _ _ _ =>
    unfold LoopState.IsBetween at hbetween
    rw [hphase] at hbetween
    cases hbetween
  | exits _ _ hcancelled =>
    rw [hsur.running] at hcancelled
    cases hcancelled
  | crashes hpanic _ _ => exact absurd hpanic (hpanics _)
  | runsOut hnone _ _ _ _ =>
    rw [hclock] at hnone
    cases hnone

/-- After its flush the loop goes to sleep, if the clock can be read. -/
theorem Stride.ends_undisturbed (h : Stride setup sur (fun _ _ => True) now st s e? st' s')
    {nowMs nowMs' : Int64} {call : Call S (Except PublishFault Unit)}
    (hphase : st.phase = .flushing nowMs call)
    (hanswers : ∀ s message, (call.finish s).1 ≠ .panicked message)
    (hclock : setup.clock.nowMs? now = some nowMs') : ∃ wake, st'.phase = .sleeping wake := by
  cases h with
  | provisions hprep _ _ _ =>
    unfold LoopState.IsPreparing at hprep
    rw [hphase] at hprep
    cases hprep
  | begins hbetween _ _ _ _ _ _ =>
    unfold LoopState.IsBetween at hbetween
    rw [hphase] at hbetween
    cases hbetween
  | ends _ _ hsleeping _ => exact ⟨_, hsleeping⟩
  | exits hbetween _ _ =>
    unfold LoopState.IsBetween at hbetween
    rw [hphase] at hbetween
    cases hbetween
  | crashes hpanics _ _ =>
    cases hpanics with
    | provisioning hphase' _ _ _ _ =>
      rw [hphase] at hphase'
      cases hphase'
    | releasing hphase' _ _ =>
      rw [hphase] at hphase'
      cases hphase'
    | flushing hphase' _ hfinish =>
      rw [hphase] at hphase'
      cases hphase'
      exact absurd hfinish (hanswers s _)
  | runsOut hnone _ _ _ _ =>
    rw [hclock] at hnone
    cases hnone

end Strides

section Timetables

variable {setup : LoopSetup} {sur : Surroundings S H} {others : S → S → Prop}
variable {given ended now : Nat} {s₀ s₁ s : S} {its : List (Iteration S)} {st₁ st : LoopState S}

/-! ### From the end of the preparation on -/

/-- What comes of a timetable is one. -/
theorem Timetable.onward {its₀ : List (Iteration S)}
    (h : Timetable setup sur others given s₀ ended its₀ st₁ s₁)
    (hlater : Timetable.Later setup sur others ended its₀ st₁ s₁ now its st s) :
    Timetable setup sur others given s₀ now its st s := by
  induction hlater with
  | refl => exact h
  | wait _ hle hprompt hothers ih => exact ih.wait hle hprompt hothers
  | step _ hdue ih => exact ih.step hdue

theorem Timetable.Prepared.timetable
    (h : Timetable.Prepared setup sur others given s₀ ended now its st s) :
    Timetable setup sur others given s₀ now its st s := by
  obtain ⟨st₁, s₁, hbefore, hready, hlater⟩ := h
  exact (hbefore.step (isDue_of_isReady hready)).onward hlater

/-- The first iteration has begun at the instant `ended`, flushes have taken no time, and the loop
is still at work. -/
structure Unhindered (ended now : Nat) (its : List (Iteration S)) (st : LoopState S) : Prop where
  first : ∃ first, its.getLast? = some first ∧ first.begunAt = ended
  flushed : ∀ it ∈ its, ∀ flushedAt, it.flushedAt? = some flushedAt → flushedAt = it.begunAt
  proceeds : st.Proceeds now its

/-- While a loop sleeps, and when it wakes up, its clock can be read. -/
theorem Iteration.Fits.exists_nowMs? {it : Iteration S} (hit : it.Fits setup)
    (hshown : setup.clock.nowMs? it.begunAt = some it.nowMs)
    (hnow : now = it.begunAt ∨
      now = roundUpToMilli (setup.clock.instantAt (addMs it.nowMs setup.intervalMs))) :
    ∃ nowMs, setup.clock.nowMs? now = some nowMs := by
  obtain ⟨htime, hspan⟩ := hit
  have hwake := Clock.millisAt_wake hshown hspan (Int.le_of_lt htime)
  have hfar : Clock.farFuture.wholeMillis ≤ greatestMillis := by decide
  have hbegun := Clock.toInt_of_nowMs? hshown (by omega)
  rcases hnow with rfl | rfl
  · exact ⟨_, hshown⟩
  · exact Clock.exists_nowMs? (by omega) (by omega)

/-- The end of a flush. -/
theorem Unhindered.ends {it : Iteration S} {earlier : List (Iteration S)}
    (h : Unhindered ended now (it :: earlier) st) (hbegun : it.begunAt = now) {st' : LoopState S}
    {wake : Nat} (hphase : st'.phase = .sleeping wake) (e? : Option (LoopEvent S)) :
    Unhindered ended now (Iteration.enter now st' e? (it :: earlier)) st' := by
  have henter : Iteration.enter now st' e? (it :: earlier) =
      { it with flushedAt? := some now } :: earlier := by
    unfold Iteration.enter
    rw [hphase]
  obtain ⟨⟨first, hfirst, hended⟩, hflushed, -⟩ := h
  rw [henter]
  refine ⟨?_, List.forall_mem_cons.mpr
    ⟨?_, fun it' hm => hflushed it' (List.mem_cons_of_mem _ hm)⟩, ?_⟩
  · rcases earlier with _ | ⟨it', earlier⟩
    · cases hfirst
      exact ⟨_, rfl, hended⟩
    · rw [List.getLast?_cons_cons] at hfirst ⊢
      exact ⟨first, hfirst, hended⟩
  · rintro _ ⟨⟩
    exact hbegun.symm
  · unfold LoopState.Proceeds
    rw [hphase]
    trivial

/-- **A loop that nobody disturbs goes on from the end of its preparation**: it begins an iteration
at once, and its flushes take no time. -/
theorem Timetable.Prepared.unhindered
    (h : Timetable.Prepared setup sur others given s₀ ended now its st s) (hsur : sur.Undisturbed)
    {givenMs endedMs : Int64} (hgiven : setup.clock.nowMs? given = some givenMs)
    (hended : setup.clock.nowMs? ended = some endedMs) (hfits : ∀ it ∈ its, it.Fits setup) :
    Unhindered ended now its st := by
  obtain ⟨st₁, s₁, hbefore, hready, hlater⟩ := h
  have hdue₁ : st₁.isDue sur ended s₁ = true := isDue_of_isReady hready
  obtain ⟨_, hcourse₁, -⟩ := hbefore.course
  induction hlater with
  | refl =>
    obtain ⟨henter, hproceeds⟩ := (hcourse₁.strides hdue₁).begins_undisturbed hsur
      (isBetween_of_isReady hready) (topic?_of_isReady hready) (not_panics_of_isReady hready)
      hended []
    rw [henter] at hproceeds ⊢
    exact ⟨⟨_, rfl, rfl⟩, by simp, hproceeds⟩
  | @wait now later its st s s' _ hle hprompt _ ih =>
    obtain ⟨hfirst, hflushed, hproceeds⟩ := ih hfits
    refine ⟨hfirst, hflushed, ?_⟩
    unfold LoopState.Proceeds at hproceeds ⊢
    rcases hphase : st.phase with _ | _ | _ | ⟨nowMs, call⟩ | wake | _ | _ <;>
      rw [hphase] at hproceeds
    · exact hproceeds
    · exact hproceeds
    · exact hproceeds
    · -- time does not pass while the loop flushes
      obtain ⟨hwake, hanswers, hbegun⟩ := hproceeds
      have hlater := hprompt now (by unfold LoopState.wake?; rw [hphase]; exact hwake)
      obtain rfl : later = now := by omega
      exact ⟨hwake, hanswers, hbegun⟩
    · trivial
    · exact hproceeds
    · exact hproceeds
  | @step now its st s hlater hdue ih =>
    have hits := fits_of_enter hfits
    have hunhindered := ih hits
    have htimetable := (hbefore.step hdue₁).onward hlater
    obtain ⟨hspaced, hstands⟩ := htimetable.spaced hgiven hits
    obtain ⟨_, hcourse, -⟩ := htimetable.course
    have hstride := hcourse.strides hdue
    have hproceeds := hunhindered.proceeds
    unfold LoopState.Proceeds at hproceeds
    rcases hphase : st.phase with _ | _ | _ | ⟨nowMs, call⟩ | wake | _ | _ <;>
      rw [hphase] at hproceeds
    · exact hproceeds.elim
    · exact hproceeds.elim
    · exact hproceeds.elim
    · obtain ⟨-, hanswers, it, earlier, rfl, hbegun⟩ := hproceeds
      have hshown := hspaced.shown it List.mem_cons_self
      rw [hbegun] at hshown
      obtain ⟨wake, hsleeping⟩ := hstride.ends_undisturbed hphase hanswers hshown
      exact hunhindered.ends hbegun hsleeping _
    · -- the loop wakes up
      unfold LoopState.StandsAfter at hstands
      rw [hphase] at hstands
      obtain ⟨it, earlier, flushedAt, endMs, rfl, hflushed, -, hwake, hpast, hnow, -⟩ := hstands
      have hbegun := hunhindered.flushed it List.mem_cons_self flushedAt hflushed
      have hwoken : wake ≤ now := by
        unfold LoopState.isDue at hdue
        rw [hphase] at hdue
        simpa [hsur.running] using hdue
      have hinstant : now = it.begunAt ∨
          now = roundUpToMilli (setup.clock.instantAt (addMs it.nowMs setup.intervalMs)) := by
        omega
      obtain ⟨nowMs, hclock⟩ := (hits it List.mem_cons_self).exists_nowMs?
        (hspaced.shown it List.mem_cons_self) hinstant
      have hbetween : st.IsBetween := isBetween_iff.mpr (.inr (.inr ⟨wake, hphase⟩))
      have hpanics : ∀ message, ¬ st.Panics sur now s message := by
        intro message hpanics
        cases hpanics with
        | provisioning hphase' _ _ _ _ => rw [hphase] at hphase'; cases hphase'
        | releasing hphase' _ _ => rw [hphase] at hphase'; cases hphase'
        | flushing hphase' _ _ => rw [hphase] at hphase'; cases hphase'
      obtain ⟨henter, hproceeds'⟩ := hstride.begins_undisturbed hsur hbetween
        (by rw [hphase]; rintro ⟨⟩) hpanics hclock (it :: earlier)
      obtain ⟨⟨first, hfirst, hended'⟩, hflushed', -⟩ := hunhindered
      rw [henter] at hproceeds' ⊢
      refine ⟨⟨first, ?_, hended'⟩, List.forall_mem_cons.mpr ⟨nofun, hflushed'⟩, hproceeds'⟩
      rw [List.getLast?_cons_cons]
      exact hfirst
    · exact hproceeds.elim
    · exact hproceeds.elim

/-! ### The first pass -/

/-- The second iteration follows on the first. -/
theorem Spaced.second {givenMs : Int64} {later : List (Iteration S)} {second first : Iteration S}
    (h : Spaced setup givenMs (later ++ [second] ++ [first])) : first.Precedes setup second := by
  have hchain := h.chain
  rw [List.append_assoc] at hchain
  exact (List.isChain_cons_cons.mp (List.isChain_append.mp hchain).2.1).1

/-- The first pass is made in the first iteration, or else in the second. -/
theorem Spaced.first_tick {givenMs : Int64} (h : Spaced setup givenMs its)
    (hflushed : ∀ it ∈ its, ∀ flushedAt, it.flushedAt? = some flushedAt → flushedAt = it.begunAt)
    {first : Iteration S} (hfirst : its.getLast? = some first) {t : Tick S}
    (ht : (its.filterMap (·.tick?)).getLast? = some t) :
    t.nowMs.toInt =
      if givenMs.toInt + setup.intervalMs ≤ first.nowMs.toInt then first.nowMs.toInt
      else first.nowMs.toInt + setup.intervalMs := by
  have hmade := h.first first hfirst
  obtain ⟨next, rfl⟩ := List.getLast?_eq_some_iff.mp hfirst
  rw [List.filterMap_append] at ht
  rcases htick : first.tick? with _ | t₁
  · -- none in the first iteration: the flush is over at once, and the second has one
    rw [htick] at hmade
    rw [if_neg (fun hle => by cases hmade.mpr hle)]
    rcases next.eq_nil_or_concat' with rfl | ⟨later, second, rfl⟩
    · simp [htick] at ht
    · obtain ⟨flushedAt, endMs, hover, hend, hnext, -, hsome⟩ := h.second
      have hbegun := hflushed first (by simp) flushedAt hover
      rw [hbegun, h.shown first (by simp)] at hend
      cases hend
      obtain ⟨t₂, ht₂⟩ := Option.isSome_iff_exists.mp hsome
      obtain rfl : t₂ = t := by simpa [htick, ht₂] using ht
      have hnow := h.ticks second (by simp) _ ht₂
      rw [hnow, hnext]
      omega
  · rw [htick] at hmade
    rw [if_pos (hmade.mp rfl)]
    obtain rfl : t₁ = t := by simpa [htick] using ht
    rw [h.ticks first (by simp) _ htick]

/-- Without a pass there has been one iteration at most. -/
theorem Spaced.eq_singleton {givenMs : Int64} (h : Spaced setup givenMs its) {first : Iteration S}
    (hfirst : its.getLast? = some first) (hnone : its.filterMap (·.tick?) = []) :
    its = [first] := by
  obtain ⟨next, rfl⟩ := List.getLast?_eq_some_iff.mp hfirst
  rcases next.eq_nil_or_concat' with rfl | ⟨later, second, rfl⟩
  · rfl
  · obtain ⟨-, -, -, -, -, -, hsome⟩ := h.second
    rw [List.filterMap_eq_nil_iff.mp hnone second (by simp)] at hsome
    cases hsome

/-- When a loop makes its first pass that got its clock at the time `givenMs` and begins its first
iteration at the time `endedMs`. -/
def LoopSetup.firstPassMs (setup : LoopSetup) (givenMs endedMs : Int64) : Int :=
  if givenMs.toInt + setup.intervalMs ≤ endedMs.toInt then endedMs.toInt
  else endedMs.toInt + setup.intervalMs

/-- The first pass is made as soon as it is due and the loop is ready, exactly if the loop was ready
at once, or no sooner than when the pass was due. -/
theorem firstPassMs_eq_max_iff {givenMs endedMs : Int64} :
    setup.firstPassMs givenMs endedMs =
        max (givenMs.toInt + setup.intervalMs) endedMs.toInt ↔
      endedMs = givenMs ∨ givenMs.toInt + setup.intervalMs ≤ endedMs.toInt := by
  unfold LoopSetup.firstPassMs
  rw [← Int64.toInt_inj]
  split
  · omega
  · omega

/-- A loop that has made no pass has not been ready for an interval. -/
theorem Unhindered.le_firstPassMs {givenMs : Int64} {first : Iteration S}
    (h : Unhindered ended now [first] st) (hspaced : Spaced setup givenMs [first])
    (hstands : st.StandsAfter setup givenMs now [first]) (hfits : first.Fits setup)
    (hnone : first.tick? = none) {nowMs : Int64} (hclock : setup.clock.nowMs? now = some nowMs) :
    nowMs.toInt ≤ setup.firstPassMs givenMs first.nowMs := by
  have hshown := hspaced.shown first List.mem_cons_self
  have hnot : ¬ givenMs.toInt + setup.intervalMs ≤ first.nowMs.toInt := by
    intro hle
    have hmade := (hspaced.first first rfl).mpr hle
    rw [hnone] at hmade
    cases hmade
  rw [LoopSetup.firstPassMs, if_neg hnot]
  obtain ⟨-, hflushed, hproceeds⟩ := h
  unfold LoopState.Proceeds at hproceeds
  unfold LoopState.StandsAfter at hstands
  rcases hphase : st.phase with _ | _ | _ | ⟨_, call⟩ | wake | _ | _ <;>
    rw [hphase] at hproceeds hstands
  · exact hproceeds.elim
  · exact hproceeds.elim
  · exact hproceeds.elim
  · -- no time has passed since the iteration began
    obtain ⟨-, -, it, earlier, hits, hbegun⟩ := hproceeds
    cases hits
    rw [← hbegun, hshown] at hclock
    cases hclock
    omega
  · -- the timer has not gone off
    obtain ⟨it, earlier, flushedAt, endMs, hits, hover, -, hwake, -, hnow, -⟩ := hstands
    cases hits
    have hbegun := hflushed first List.mem_cons_self flushedAt hover
    obtain ⟨htime, hspan⟩ := hfits
    have hmillis := Clock.millisAt_wake hshown hspan (Int.le_of_lt htime)
    rw [← hwake] at hmillis
    have hfar : Clock.farFuture.wholeMillis ≤ greatestMillis := by decide
    have hle : setup.clock.millisAt now ≤
        setup.clock.millisAt first.begunAt + setup.intervalMs := by
      rw [hbegun] at hnow
      rcases Nat.le_total first.begunAt wake with hl | hl
      · rw [← hmillis]
        exact Clock.millisAt_mono (by omega)
      · exact Nat.le_add_right_of_le (Clock.millisAt_mono (by omega))
    have hread := Clock.toInt_of_nowMs? hclock (by omega)
    have hbegan := Clock.toInt_of_nowMs? hshown (by omega)
    omega
  · exact hproceeds.elim
  · exact hproceeds.elim

/-- **The first pass of a loop that nobody disturbs.**  The loop got its clock when it showed
`givenMs`, and the provisioning, with the release of the client, is over at the instant `ended`,
when the clock shows `endedMs`.  The first iteration begins at that instant.  If an interval is over
since `givenMs`, it makes the first pass; else the next iteration does, one interval after
`endedMs`.  Once the clock shows any later time, the pass has been made.

So the first pass is made as soon as it is due and the loop is ready, exactly if the provisioning
has taken no time, or at least as long as the interval. -/
theorem Timetable.Prepared.first_pass
    (h : Timetable.Prepared setup sur others given s₀ ended now its st s) (hsur : sur.Undisturbed)
    {givenMs endedMs : Int64} (hgiven : setup.clock.nowMs? given = some givenMs)
    (hended : setup.clock.nowMs? ended = some endedMs) (hfits : ∀ it ∈ its, it.Fits setup) :
    (∃ first, its.getLast? = some first ∧ first.begunAt = ended ∧ first.nowMs = endedMs) ∧
    (∀ t, (its.filterMap (·.tick?)).getLast? = some t →
      t.nowMs.toInt = setup.firstPassMs givenMs endedMs) ∧
    (∀ nowMs, setup.clock.nowMs? now = some nowMs →
      setup.firstPassMs givenMs endedMs < nowMs.toInt →
        ∃ t, (its.filterMap (·.tick?)).getLast? = some t) ∧
    (setup.firstPassMs givenMs endedMs =
        max (givenMs.toInt + setup.intervalMs) endedMs.toInt ↔
      endedMs = givenMs ∨ givenMs.toInt + setup.intervalMs ≤ endedMs.toInt) := by
  have hunhindered := h.unhindered hsur hgiven hended hfits
  obtain ⟨hspaced, hstands⟩ := h.timetable.spaced hgiven hfits
  obtain ⟨first, hfirst, hbegun⟩ := hunhindered.first
  have hmem : first ∈ its := List.mem_of_getLast? hfirst
  have hnowMs : first.nowMs = endedMs := by
    have hshown := hspaced.shown first hmem
    rw [hbegun, hended] at hshown
    exact (Option.some.inj hshown).symm
  refine ⟨⟨first, hfirst, hbegun, hnowMs⟩, fun t ht => ?_, fun nowMs hclock hlt => ?_,
    firstPassMs_eq_max_iff⟩
  · rw [hspaced.first_tick hunhindered.flushed hfirst ht, hnowMs]
    rfl
  · rcases hticks : its.filterMap (·.tick?) with _ | ⟨t, ts⟩
    · obtain rfl := hspaced.eq_singleton hfirst hticks
      have htick : first.tick? = none := List.filterMap_eq_nil_iff.mp hticks first hmem
      have hle := hunhindered.le_firstPassMs hspaced hstands (hfits first hmem) htick hclock
      rw [hnowMs] at hle
      omega
    · rw [hticks]
      exact ⟨_, List.getLast?_cons⟩

end Timetables

/-! ### A broker that takes its time -/

/-- Surroundings whose broker takes 200 ms to refuse a request. -/
def Surroundings.sluggish : Surroundings Unit Empty :=
  { Surroundings.quiet Unit with
    admin := fun _ s => (⟨some (.ofMillis 200), fun s => (.value (.error (.network "")), s)⟩, s) }

/-- A loop with a topic to provision, with an iteration every second. -/
def LoopSetup.everySecond : LoopSetup :=
  { nodeId := 0
    interval := .ofMillis 1000
    clock := ⟨0, 0⟩
    topic? := some ⟨"metrics", 1, 1, .ofMillis 1000, .delete, Nat.one_pos, Nat.one_pos⟩ }

theorem undisturbed_sluggish : Surroundings.sluggish.Undisturbed :=
  ⟨fun _ => rfl, fun _ => rfl, by rintro _ _ _ ⟨⟩⟩

/-- The broker refuses to create the topic after 200 ms, and to close the client after as many
more.  Then there is an iteration without a pass, and a second later one with a pass. -/
theorem prepared_of_sluggish :
    ∃ its st t, Timetable.Prepared .everySecond .sluggish Eq 0 () 400000000 1400000000 its st () ∧
      (∀ it ∈ its, it.Fits .everySecond) ∧
      (its.filterMap (·.tick?)).getLast? = some t ∧ t.nowMs.toInt = 1400 := by
  have hasked : Timetable .everySecond .sluggish Eq 0 () 0 [] _ () :=
    (Timetable.start.step rfl).step rfl
  have hanswered : Timetable .everySecond .sluggish Eq 0 () 200000000 [] _ () :=
    (hasked.wait (Nat.zero_le _) (by rintro _ ⟨⟩; decide) rfl).step rfl
  have hclosed : Timetable .everySecond .sluggish Eq 0 () 400000000 [] _ () :=
    hanswered.wait (by decide) (by rintro _ ⟨⟩; decide) rfl
  refine ⟨_, _, _, ⟨_, _, hclosed, ⟨rfl, by rintro _ _ ⟨⟩⟩, ((Timetable.Later.refl.step rfl).wait
    (by decide) (by rintro _ ⟨⟩; decide) rfl).step (by decide)⟩, ?_, rfl, by decide +kernel⟩
  rintro it hit
  rcases List.mem_cons.mp hit with rfl | hit
  · exact ⟨by decide +kernel, by decide +kernel⟩
  · cases List.mem_singleton.mp hit
    exact ⟨by decide +kernel, by decide +kernel⟩

/-- With such a broker, the first pass is made one second after the client has been given up. -/
theorem first_pass_of_sluggish :
    ∃ its st t, Timetable.Prepared .everySecond .sluggish Eq 0 () 400000000 1400000000 its st () ∧
      (its.filterMap (·.tick?)).getLast? = some t ∧
      t.nowMs.toInt = LoopSetup.everySecond.firstPassMs 0 400 := by
  obtain ⟨its, st, t, hprepared, hfits, ht, -⟩ := prepared_of_sluggish
  obtain ⟨-, hnowMs, -⟩ := hprepared.first_pass undisturbed_sluggish rfl rfl hfits
  exact ⟨its, st, t, hprepared, ht, hnowMs t ht⟩

/-- But the pass has been due for 400 ms by then: the loop got its clock at 0 ms. -/
theorem first_pass_late :
    Surroundings.sluggish.Undisturbed ∧ 1 ≤ LoopSetup.everySecond.intervalMs ∧
    LoopSetup.everySecond.clock.nowMs? 0 = some 0 ∧
    LoopSetup.everySecond.clock.nowMs? 400000000 = some 400 ∧
    ∃ its st t, Timetable.Prepared .everySecond .sluggish Eq 0 () 400000000 1400000000 its st () ∧
      (∀ it ∈ its, it.Fits .everySecond) ∧
      (its.filterMap (·.tick?)).getLast? = some t ∧
      t.nowMs.toInt ≠ max (0 + (LoopSetup.everySecond.intervalMs : Int)) 400 := by
  obtain ⟨its, st, t, hprepared, hfits, ht, hnowMs⟩ := prepared_of_sluggish
  refine ⟨undisturbed_sluggish, by decide, rfl, rfl, its, st, t, hprepared, hfits, ht, ?_⟩
  rw [hnowMs]
  decide

end MetricFeed
