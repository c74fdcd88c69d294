/-
MetricFeed/Proofs/Reporting/Timetable.lean

When the iterations of a loop begin, and when it makes its passes.  Time may be spent anywhere: on
the provisioning, on the flushes, before the loop gets to do anything at all.  All that is asked is
that time does not run past an instant for which the loop has set a timer or at which it is
answered (`Timetable`).

A timetable keeps an account of the iterations, the latest first.

* `Timetable.spaced` : an iteration begins one interval after the one before or, if that takes
  longer, at the end of its flush, and makes a pass; only the first may have to do without;
* `Timetable.dated` : what a pass remembers of counters was observed in earlier passes;
* `Timetable.schedule` : the timetable of iterations and passes.
-/
import Mathlib.Data.List.Chain
import MetricFeed.Proofs.Reporting.Baselines
import MetricFeed.Proofs.Reporting.Clock
import MetricFeed.Proofs.Reporting.Published
import MetricFeed.Proofs.Reporting.Stride

namespace MetricFeed

variable {S H : Type}

/-! ### Iterations -/

/-- An iteration: the instant at which it begins and the time that the clock shows then, its pass
if it makes one, and the instant at which its flush is over. -/
structure Iteration (S : Type) where
  begunAt : Nat
  nowMs : Int64
  tick? : Option (Tick S)
  flushedAt? : Option Nat := none

namespace Iteration

/-- The interval after the iteration's beginning fits in 64 bits and is within reach of timers. -/
structure Fits (setup : LoopSetup) (it : Iteration S) : Prop where
  time : it.nowMs.toInt + setup.intervalMs < greatestMillis
  span : setup.clock.millisAt it.begunAt + setup.intervalMs ≤ Clock.farFuture.wholeMillis

/-- The next iteration begins one interval later, or at the end of the flush if that is later
still; then it begins in the very instant of that end.  It makes a pass. -/
def Precedes (setup : LoopSetup) (it next : Iteration S) : Prop :=
  ∃ flushedAt endMs, it.flushedAt? = some flushedAt ∧
    setup.clock.nowMs? flushedAt = some endMs ∧
    next.nowMs.toInt = max (it.nowMs.toInt + setup.intervalMs) endMs.toInt ∧
    (it.nowMs.toInt + setup.intervalMs < endMs.toInt → next.begunAt = flushedAt) ∧
    next.tick?.isSome

end Iteration

/-- Enters a step that takes the loop to `st` in the account of its iterations. -/
def Iteration.enter (now : Nat) (st : LoopState S) (e? : Option (LoopEvent S))
    (its : List (Iteration S)) : List (Iteration S) :=
  match st.phase, its with
  | .flushing nowMs _, its => { begunAt := now, nowMs, tick? := e?.bind LoopEvent.tick? } :: its
  | .sleeping _, it :: earlier => { it with flushedAt? := some now } :: earlier
  | _, its => its

/-- The course of a loop that gets its clock at the instant `given`, with an account of its
iterations. -/
inductive Timetable (setup : LoopSetup) (sur : Surroundings S H) (others : S → S → Prop)
    (given : Nat) (s₀ : S) : Nat → List (Iteration S) → LoopState S → S → Prop
  | start : Timetable setup sur others given s₀ given [] (setup.initial S given) s₀
  /-- Time passes, but not past what the loop waits for, and others act. -/
  | wait {now later : Nat} {its : List (Iteration S)} {st : LoopState S} {s s' : S} :
    Timetable setup sur others given s₀ now its st s → now ≤ later →
    (∀ wake, st.wake? = some wake → later ≤ max now wake) → others s s' →
    Timetable setup sur others given s₀ later its st s'
  | step {now : Nat} {its : List (Iteration S)} {st : LoopState S} {s : S} :
    Timetable setup sur others given s₀ now its st s → st.isDue sur now s = true →
    Timetable setup sur others given s₀ now
      (Iteration.enter now (st.step setup sur now s).1 (st.event? setup sur now s) its)
      (st.step setup sur now s).1 (st.step setup sur now s).2

/-! ### Time between iterations -/

section Spacing

variable {setup : LoopSetup} {sur : Surroundings S H} {others : S → S → Prop} {given now : Nat}
variable {s₀ s : S} {its : List (Iteration S)} {st : LoopState S}

/-- Whether a pass is due, in whole numbers. -/
theorem passDue_iff {nowMs : Int64}
    (h : st.lastPass.toInt + setup.intervalMs ≤ greatestMillis) :
    st.passDue setup nowMs = true ↔ st.lastPass.toInt + setup.intervalMs ≤ nowMs.toInt := by
  unfold LoopState.passDue
  rw [decide_eq_true_iff, Int64.le_iff_toInt_le, toInt_addMs h]

/-- A loop that sleeps after an iteration wakes up one interval after its beginning, or at once if
that is over by the end of the flush. -/
theorem Iteration.Fits.wakes {it : Iteration S} (hit : it.Fits setup)
    (hshown : setup.clock.nowMs? it.begunAt = some it.nowMs) {flushedAt next : Nat}
    {endMs nextMs : Int64} (hend : setup.clock.nowMs? flushedAt = some endMs)
    (hnext : next = max flushedAt
      (roundUpToMilli (setup.clock.instantAt (addMs it.nowMs setup.intervalMs))))
    (hnextMs : setup.clock.nowMs? next = some nextMs)
    (hle : setup.clock.millisAt next ≤ Clock.farFuture.wholeMillis) :
    nextMs.toInt = max (it.nowMs.toInt + setup.intervalMs) endMs.toInt ∧
      (it.nowMs.toInt + setup.intervalMs < endMs.toInt → next = flushedAt) := by
  obtain ⟨htime, hspan⟩ := hit
  have hwake := Clock.millisAt_wake hshown hspan (Int.le_of_lt htime)
  have hfar : Clock.farFuture.wholeMillis ≤ greatestMillis := by decide
  generalize roundUpToMilli (setup.clock.instantAt (addMs it.nowMs setup.intervalMs)) = wake
    at hnext hwake
  -- of two instants the clock shows the later time at the later one
  have hmax : setup.clock.millisAt next =
      max (setup.clock.millisAt flushedAt) (setup.clock.millisAt wake) := by
    rw [hnext]
    rcases Nat.le_total flushedAt wake with hl | hl
    · rw [Nat.max_eq_right hl, Nat.max_eq_right (Clock.millisAt_mono hl)]
    · rw [Nat.max_eq_left hl, Nat.max_eq_left (Clock.millisAt_mono hl)]
  have hbegun := Clock.toInt_of_nowMs? hshown (by omega)
  have hflushed := Clock.toInt_of_nowMs? hend (by omega)
  have hbegins := Clock.toInt_of_nowMs? hnextMs (by omega)
  refine ⟨by omega, fun hover => ?_⟩
  have hlt : wake < flushedAt := by
    apply Nat.lt_of_not_le
    intro hl
    have := Clock.millisAt_mono (c := setup.clock) hl
    omega
  rw [hnext, Nat.max_eq_left (Nat.le_of_lt hlt)]

/-- The iterations of a loop that got its clock at the time `givenMs`, the latest first. -/
structure Spaced (setup : LoopSetup) (givenMs : Int64) (its : List (Iteration S)) : Prop where
  shown : ∀ it ∈ its, setup.clock.nowMs? it.begunAt = some it.nowMs
  ticks : ∀ it ∈ its, ∀ t, it.tick? = some t → t.nowMs = it.nowMs
  first : ∀ it, its.getLast? = some it →
    (it.tick?.isSome ↔ givenMs.toInt + setup.intervalMs ≤ it.nowMs.toInt)
  chain : its.IsChain fun next it => it.Precedes setup next

/-- Where a loop stands at the instant `now` after iterations, the latest first. -/
def LoopState.StandsAfter (setup : LoopSetup) (givenMs : Int64) (now : Nat)
    (its : List (Iteration S)) (st : LoopState S) : Prop :=
  match st.phase with
  | .starting | .provisioning _ _ | .releasing _ => its = [] ∧ st.lastPass = givenMs
  | .flushing nowMs _ =>
    ∃ it earlier, its = it :: earlier ∧ it.nowMs = nowMs ∧
      st.lastPass.toInt ≤ it.nowMs.toInt
  | .sleeping wake =>
    ∃ it earlier flushedAt endMs, its = it :: earlier ∧ it.flushedAt? = some flushedAt ∧
      setup.clock.nowMs? flushedAt = some endMs ∧
      wake = roundUpToMilli (setup.clock.instantAt (addMs it.nowMs setup.intervalMs)) ∧
      flushedAt ≤ now ∧ now ≤ max flushedAt wake ∧ st.lastPass.toInt ≤ it.nowMs.toInt
  | .exited | .crashed _ => True

theorem Timetable.given_le (h : Timetable setup sur others given s₀ now its st s) :
    given ≤ now := by
  induction h with
  | start => exact Nat.le_refl _
  | wait _ hle _ _ ih => exact Nat.le_trans ih hle
  | step _ _ ih => exact ih

/-- A step that provisions enters nothing. -/
theorem enter_of_isProvisioned {e? : Option (LoopEvent S)} (h : st.IsProvisioned) :
    Iteration.enter now st e? its = its := by
  unfold Iteration.enter
  obtain ⟨spec, p, hphase⟩ | ⟨call, hphase⟩ := isProvisioned_iff.mp h
  · simp [hphase]
  · simp [hphase]

/-- A step that begins an iteration enters it. -/
theorem enter_of_flushing {e? : Option (LoopEvent S)} {nowMs : Int64}
    {call : Call S (Except PublishFault Unit)} (h : st.phase = .flushing nowMs call) :
    Iteration.enter now st e? its =
      { begunAt := now, nowMs, tick? := e?.bind LoopEvent.tick? } :: its := by
  unfold Iteration.enter
  rw [h]

/-- The passes that are entered are the events of the steps. -/
theorem ticks_enter {e? : Option (LoopEvent S)} {st' : LoopState S} {s' : S}
    (h : Stride setup sur (fun _ _ => True) now st s e? st' s') :
    (Iteration.enter now st' e? its).filterMap (·.tick?) =
      (e?.bind LoopEvent.tick?).toList ++ its.filterMap (·.tick?) := by
  cases h with
  | provisions _ _ hprov _ =>
    rw [enter_of_isProvisioned hprov]
    rfl
  | begins _ _ _ _ _ hphase _ =>
    rw [enter_of_flushing hphase]
    exact filterMap_cons_toList _ _ _
  | ends _ _ hphase _ =>
    unfold Iteration.enter
    rw [hphase]
    rcases its with _ | ⟨it, earlier⟩
    · rfl
    · -- the end of the flush changes nothing about the pass
      rfl
  | exits => rfl
  | crashes _ hphase _ =>
    unfold Iteration.enter
    rw [hphase]
    rfl
  | runsOut _ _ hphase _ htick =>
    unfold Iteration.enter
    rw [hphase, htick]
    rfl

/-- A timetable is that of a course, whose passes are those of the iterations. -/
theorem Timetable.course (h : Timetable setup sur others given s₀ now its st s) :
    ∃ history, Course setup sur others s₀ now history st s ∧
      ticksOf history = its.filterMap (·.tick?) := by
  induction h with
  | start => exact ⟨[], .start given, rfl⟩
  | wait _ hle _ ho ih =>
    obtain ⟨history, hcourse, hticks⟩ := ih
    exact ⟨history, hcourse.wait hle ho, hticks⟩
  | @step now its st s _ hdue ih =>
    obtain ⟨history, hcourse, hticks⟩ := ih
    refine ⟨_, hcourse.step hdue, ?_⟩
    rw [ticks_enter (hcourse.strides hdue), ← hticks]
    exact ticksOf_event _ history

/-- The first iteration. -/
theorem Spaced.single {givenMs : Int64} {it : Iteration S}
    (hshown : setup.clock.nowMs? it.begunAt = some it.nowMs)
    (htick : ∀ t, it.tick? = some t → t.nowMs = it.nowMs)
    (hfirst : it.tick?.isSome ↔ givenMs.toInt + setup.intervalMs ≤ it.nowMs.toInt) :
    Spaced setup givenMs [it] where
  shown := List.forall_mem_singleton.mpr hshown
  ticks := List.forall_mem_singleton.mpr htick
  first := by
    rintro _ ⟨⟩
    exact hfirst
  chain := List.isChain_singleton it

/-- One iteration more. -/
theorem Spaced.cons {givenMs : Int64} {it next : Iteration S} {earlier : List (Iteration S)}
    (h : Spaced setup givenMs (it :: earlier))
    (hshown : setup.clock.nowMs? next.begunAt = some next.nowMs)
    (htick : ∀ t, next.tick? = some t → t.nowMs = next.nowMs) (hprec : it.Precedes setup next) :
    Spaced setup givenMs (next :: it :: earlier) where
  shown := List.forall_mem_cons.mpr ⟨hshown, h.shown⟩
  ticks := List.forall_mem_cons.mpr ⟨htick, h.ticks⟩
  first := by
    intro first hlast
    rw [List.getLast?_cons_cons] at hlast
    exact h.first first hlast
  chain := List.IsChain.cons_cons hprec h.chain

/-- The end of the flush is entered. -/
theorem Spaced.flushed {givenMs : Int64} {it : Iteration S} {earlier : List (Iteration S)}
    (h : Spaced setup givenMs (it :: earlier)) (flushedAt : Nat) :
    Spaced setup givenMs ({ it with flushedAt? := some flushedAt } :: earlier) where
  shown := by
    rw [List.forall_mem_cons]
    exact ⟨h.shown it List.mem_cons_self, fun it' hm => h.shown it' (List.mem_cons_of_mem _ hm)⟩
  ticks := by
    rw [List.forall_mem_cons]
    exact ⟨h.ticks it List.mem_cons_self, fun it' hm => h.ticks it' (List.mem_cons_of_mem _ hm)⟩
  first := by
    intro first hlast
    rcases earlier with _ | ⟨it', earlier⟩
    · cases hlast
      exact h.first it rfl
    · rw [List.getLast?_cons_cons] at hlast
      exact h.first first (by rw [List.getLast?_cons_cons]; exact hlast)
  chain := by
    rcases earlier with _ | ⟨it', earlier⟩
    · exact List.isChain_singleton _
    · have hchain := List.isChain_cons_cons.mp h.chain
      exact List.isChain_cons_cons.mpr hchain

/-- The iteration that begins at the instant `now`, with the pass `t` if one is due. -/
def LoopState.opening (setup : LoopSetup) (now : Nat) (st : LoopState S) (t : Tick S) :
    Iteration S :=
  { begunAt := now, nowMs := t.nowMs, tick? := if st.passDue setup t.nowMs then some t else none }

theorem opening_tick {t t' : Tick S} (h : (st.opening setup now t).tick? = some t') :
    t'.nowMs = t.nowMs := by
  unfold LoopState.opening at h
  dsimp only at h
  split at h
  · cases h
    rfl
  · cases h

/-- A loop that has had no iteration begins the first. -/
theorem Spaced.begins_first {t : Tick S} {givenMs : Int64}
    (hgiven : setup.clock.nowMs? given = some givenMs) (hle : given ≤ now)
    (hclock : setup.clock.nowMs? now = some t.nowMs)
    (hfits : (st.opening setup now t).Fits setup) (hlast : st.lastPass = givenMs) :
    st.lastPass.toInt ≤ t.nowMs.toInt ∧ Spaced setup givenMs [st.opening setup now t] := by
  obtain ⟨htime, hspan⟩ := hfits
  have hfar : Clock.farFuture.wholeMillis ≤ greatestMillis := by decide
  -- the clock has not gone backwards
  have hpast : st.lastPass.toInt ≤ t.nowMs.toInt := by
    have hmono := Clock.millisAt_mono (c := setup.clock) hle
    change setup.clock.millisAt now + setup.intervalMs ≤ _ at hspan
    have hshows := Clock.toInt_of_nowMs? hclock (by omega)
    have hshowed := Clock.toInt_of_nowMs? hgiven (by omega)
    rw [hlast]
    omega
  refine ⟨hpast, .single hclock (fun _ => opening_tick) ?_⟩
  change t.nowMs.toInt + setup.intervalMs < _ at htime
  show (if st.passDue setup t.nowMs then some t else none).isSome ↔ _ ≤ t.nowMs.toInt
  rw [← hlast, ← passDue_iff (by omega)]
  split
  · simp [*]
  · simp [*]

/-- A loop that has slept after an iteration begins the next, and makes a pass. -/
theorem Spaced.begins_next {t : Tick S} {givenMs : Int64} {it : Iteration S}
    {earlier : List (Iteration S)} (h : Spaced setup givenMs (it :: earlier))
    (hit : it.Fits setup) {flushedAt : Nat} {endMs : Int64}
    (hflushed : it.flushedAt? = some flushedAt) (hend : setup.clock.nowMs? flushedAt = some endMs)
    (hnow : now = max flushedAt
      (roundUpToMilli (setup.clock.instantAt (addMs it.nowMs setup.intervalMs))))
    (hclock : setup.clock.nowMs? now = some t.nowMs)
    (hfits : (st.opening setup now t).Fits setup) (hlast : st.lastPass.toInt ≤ it.nowMs.toInt) :
    st.lastPass.toInt ≤ t.nowMs.toInt ∧
      Spaced setup givenMs (st.opening setup now t :: it :: earlier) := by
  obtain ⟨-, hspan⟩ := hfits
  obtain ⟨hnext, hover⟩ := hit.wakes (h.shown it List.mem_cons_self) hend hnow hclock
    (Nat.le_trans (Nat.le_add_right _ _) hspan)
  have hdue : st.passDue setup t.nowMs = true := by
    have htime := hit.time
    rw [passDue_iff (by omega)]
    omega
  refine ⟨by omega, h.cons hclock (fun _ => opening_tick) ?_⟩
  refine ⟨flushedAt, endMs, hflushed, hend, hnext, hover, ?_⟩
  show (if st.passDue setup t.nowMs then some t else none).isSome = true
  rw [if_pos hdue]
  rfl

/-- Whatever has been before, the iteration that begins is spaced from it. -/
theorem Spaced.begins {t : Tick S} {givenMs : Int64} (h : Spaced setup givenMs its)
    (hits : ∀ it ∈ its, it.Fits setup) (hstands : st.StandsAfter setup givenMs now its)
    (hbetween : st.IsBetween) (hwoken : ∀ wake, st.phase = .sleeping wake → wake ≤ now)
    (hgiven : setup.clock.nowMs? given = some givenMs) (hle : given ≤ now)
    (hclock : setup.clock.nowMs? now = some t.nowMs)
    (hfits : (st.opening setup now t).Fits setup) :
    st.lastPass.toInt ≤ t.nowMs.toInt ∧
      Spaced setup givenMs (st.opening setup now t :: its) := by
  unfold LoopState.StandsAfter at hstands
  obtain hphase | ⟨call, hphase⟩ | ⟨wake, hphase⟩ := isBetween_iff.mp hbetween
  · rw [hphase] at hstands
    obtain ⟨rfl, hlast⟩ := hstands
    exact Spaced.begins_first hgiven hle hclock hfits hlast
  · rw [hphase] at hstands
    obtain ⟨rfl, hlast⟩ := hstands
    exact Spaced.begins_first hgiven hle hclock hfits hlast
  · -- sleeping: time has not run past the timer
    rw [hphase] at hstands
    obtain ⟨it, earlier, flushedAt, endMs, rfl, hflushed, hend, rfl, hpast, hnow, hlast⟩ := hstands
    have hwake := hwoken _ hphase
    exact h.begins_next (hits it List.mem_cons_self) hflushed hend (by omega) hclock hfits hlast

/-- A loop that has not begun an iteration has entered none. -/
theorem LoopState.StandsAfter.of_isPreparing {givenMs : Int64}
    (h : st.StandsAfter setup givenMs now its) (hprep : st.IsPreparing) :
    its = [] ∧ st.lastPass = givenMs := by
  unfold LoopState.StandsAfter at h
  obtain hphase | ⟨spec, p, hphase⟩ := isPreparing_iff.mp hprep <;> rw [hphase] at h <;> exact h

/-- **A step keeps the account of the iterations.** -/
theorem Spaced.step {givenMs : Int64} (h : Spaced setup givenMs its)
    (hits : ∀ it ∈ its, it.Fits setup) (hstands : st.StandsAfter setup givenMs now its)
    (hgiven : setup.clock.nowMs? given = some givenMs) (hle : given ≤ now)
    {e? : Option (LoopEvent S)} {st' : LoopState S} {s' : S}
    (hstride : Stride setup sur (fun _ _ => True) now st s e? st' s')
    (hfits : ∀ it ∈ Iteration.enter now st' e? its, it.Fits setup) :
    Spaced setup givenMs (Iteration.enter now st' e? its) ∧
      st'.StandsAfter setup givenMs now (Iteration.enter now st' e? its) := by
  cases hstride with
  | provisions hprep _ hprov heq =>
    obtain ⟨rfl, hlast⟩ := hstands.of_isPreparing hprep
    have hlast' : st'.lastPass = givenMs := by
      rw [heq]
      exact hlast
    rw [enter_of_isProvisioned hprov]
    refine ⟨h, ?_⟩
    unfold LoopState.StandsAfter
    obtain ⟨spec, p, hphase⟩ | ⟨call, hphase⟩ := isProvisioned_iff.mp hprov <;>
      rw [hphase] <;> exact ⟨rfl, hlast'⟩
  | @begins nowMs s₁ s₂ _ _ hbetween hwoken _ _ hclock hphase hlast =>
    -- the event of the step is the pass, if one is due
    have henter : Iteration.enter now st'
        (if st.passDue setup nowMs then
          some (.tick ⟨nowMs, st.rates, sur.note (.reportingAt nowMs) s₁⟩) else none) its =
        st.opening setup now ⟨nowMs, st.rates, sur.note (.reportingAt nowMs) s₁⟩ :: its := by
      rw [enter_of_flushing hphase]
      unfold LoopState.opening
      dsimp only
      split <;> rfl
    rw [henter] at hfits ⊢
    obtain ⟨hpast, hspaced⟩ := h.begins hits hstands hbetween hwoken hgiven hle hclock
      (hfits _ List.mem_cons_self)
    refine ⟨hspaced, ?_⟩
    unfold LoopState.StandsAfter
    rw [hphase]
    refine ⟨_, _, rfl, rfl, ?_⟩
    rw [hlast]
    split
    · exact Int.le_refl _
    · exact hpast
  | @ends nowMs endMs call s₁ _ _ hphase hclock hphase' hlast =>
    unfold LoopState.StandsAfter at hstands
    rw [hphase] at hstands
    obtain ⟨it, earlier, rfl, rfl, hpast⟩ := hstands
    have henter : Iteration.enter now st' (some (.summary it.nowMs s₁)) (it :: earlier) =
        { it with flushedAt? := some now } :: earlier := by
      unfold Iteration.enter
      rw [hphase']
    rw [henter]
    refine ⟨h.flushed now, ?_⟩
    unfold LoopState.StandsAfter
    rw [hphase']
    refine ⟨_, _, now, endMs, rfl, rfl, hclock, rfl, Nat.le_refl _, Nat.le_max_left _ _, ?_⟩
    rw [hlast]
    exact hpast
  | exits => exact ⟨h, trivial⟩
  | crashes _ hphase _ =>
    unfold Iteration.enter LoopState.StandsAfter
    rw [hphase]
    exact ⟨h, trivial⟩
  | runsOut _ _ hphase _ _ =>
    unfold Iteration.enter LoopState.StandsAfter
    rw [hphase]
    exact ⟨h, trivial⟩

/-- Entering a step keeps the iterations' beginnings. -/
theorem fits_of_enter {e? : Option (LoopEvent S)}
    (h : ∀ it ∈ Iteration.enter now st e? its, it.Fits setup) : ∀ it ∈ its, it.Fits setup := by
  unfold Iteration.enter at h
  split at h
  · exact fun it hm => h it (List.mem_cons_of_mem _ hm)
  · rintro it hm
    rcases List.mem_cons.mp hm with rfl | hm
    · obtain ⟨htime, hspan⟩ := h _ List.mem_cons_self
      exact ⟨htime, hspan⟩
    · exact h it (List.mem_cons_of_mem _ hm)
  · exact h

/-- **The iterations of a loop follow each other as the interval and the flushes say.** -/
theorem Timetable.spaced {givenMs : Int64}
    (h : Timetable setup sur others given s₀ now its st s)
    (hgiven : setup.clock.nowMs? given = some givenMs) (hfits : ∀ it ∈ its, it.Fits setup) :
    Spaced setup givenMs its ∧ st.StandsAfter setup givenMs now its := by
  induction h with
  | start =>
    unfold LoopSetup.initial
    rw [hgiven]
    exact ⟨⟨nofun, nofun, nofun, .nil⟩, rfl, rfl⟩
  | @wait now later its st s s' _ hle hprompt _ ih =>
    obtain ⟨hspaced, hstands⟩ := ih hfits
    refine ⟨hspaced, ?_⟩
    unfold LoopState.StandsAfter at hstands ⊢
    rcases hphase : st.phase with _ | ⟨spec, p⟩ | call | ⟨nowMs, call⟩ | wake | _ | message <;>
      rw [hphase] at hstands
    · exact hstands
    · exact hstands
    · exact hstands
    · exact hstands
    · -- sleeping: time runs on, to the timer at most
      obtain ⟨it, earlier, flushedAt, endMs, hits, hflushed, hend, hwake, hpast, hnow, hlast⟩ :=
        hstands
      have hlater : later ≤ max now wake := by
        apply hprompt
        unfold LoopState.wake?
        rw [hphase]
      exact ⟨it, earlier, flushedAt, endMs, hits, hflushed, hend, hwake, by omega, by omega, hlast⟩
    · trivial
    · trivial
  | @step now its st s hbefore hdue ih =>
    have hits := fits_of_enter hfits
    obtain ⟨hspaced, hstands⟩ := ih hits
    obtain ⟨_, hcourse, -⟩ := hbefore.course
    exact hspaced.step hits hstands hgiven hbefore.given_le (hcourse.strides hdue) hfits

end Spacing

/-! ### When counters were observed -/

/-- Every baseline is from one of the passes. -/
def Rates.DatedBy (ticks : List (Tick S)) (r : Rates) : Prop :=
  ∀ id o, r.baselines.get? id = some o → ∃ t ∈ ticks, t.nowMs = o.timeMs

/-- What a pass remembers of counters when it begins is from earlier ones. -/
def Dated : List (Tick S) → Prop
  | [] => True
  | t :: earlier => t.rates.DatedBy earlier ∧ Dated earlier

/-- A baseline after several visits is from one of them, or was there before. -/
theorem Rates.get?_observeAll {now : Int64} {id : MetricId} {o : Observation} (r : Rates)
    (ms : List LegacyMetric) (h : (r.observeAll now ms).baselines.get? id = some o) :
    o.timeMs = now ∨ r.baselines.get? id = some o := by
  induction ms generalizing r with
  | nil => exact .inr h
  | cons m rest ih =>
    rcases ih (r.observe m now).1 h with htime | hget
    · exact .inl htime
    · obtain ⟨mid, value⟩ := m
      cases value with
      | counter count =>
        change (r.baselines.insert mid ⟨count, now⟩).get? id = some o at hget
        rw [Table.get?_insert] at hget
        by_cases hid : id = mid
        · rw [if_pos hid] at hget
          cases hget
          exact .inl rfl
        · rw [if_neg hid] at hget
          exact .inr hget
      | gauge value => exact .inr hget
      | histogram count sum => exact .inr hget
      | summary count sum => exact .inr hget

section Dates

variable {setup : LoopSetup} {sur : Surroundings S H} {others : S → S → Prop} {given now : Nat}
variable {s₀ s : S} {its : List (Iteration S)} {st : LoopState S}

/-- What is remembered after a pass is from it or from before. -/
theorem Rates.DatedBy.tick {ticks : List (Tick S)} {t : Tick S} (h : t.rates.DatedBy ticks) :
    (t.final setup sur).rates.DatedBy (t :: ticks) := by
  intro id o hget
  rw [t.rates_final] at hget
  have hobserved :
      (t.rates.observeAll t.nowMs (t.presented setup sur)).baselines.get? id = some o := by
    rcases hw : t.walkCompleted setup sur with _ | _
    · rw [hw] at hget
      exact hget
    · -- a completed walk only takes baselines away
      rw [hw] at hget
      change (Rates.finishWalk _).baselines.get? id = some o at hget
      rw [get?_finishWalk] at hget
      split at hget
      · exact hget
      · cases hget
  rcases get?_observeAll _ _ hobserved with htime | hbefore
  · exact ⟨t, List.mem_cons_self, htime.symm⟩
  · obtain ⟨t', ht', htime⟩ := h id o hbefore
    exact ⟨t', List.mem_cons_of_mem _ ht', htime⟩

/-- Throughout a course, what is remembered of counters was observed in its passes. -/
theorem Course.dated {history : List (LoopEvent S)}
    (h : Course setup sur others s₀ now history st s) :
    Dated (ticksOf history) ∧ st.rates.DatedBy (ticksOf history) := by
  refine h.invariant
    (I := fun history rates _ _ => Dated (ticksOf history) ∧ rates.DatedBy (ticksOf history))
    sur.idleWithin_true ?_ ?_ ?_ ?_ ?_
  · exact ⟨trivial, nofun⟩
  · exact fun _ hi => hi
  · exact fun _ hi => hi
  · exact fun t hi => ⟨⟨hi.2, hi.1⟩, hi.2.tick⟩
  · exact fun hi => hi

/-- Passes at intervals compute no rate over less than an interval. -/
theorem Dated.elapsed {ticks : List (Tick S)} {interval : Nat} (h : Dated ticks)
    (hspaced : ticks.Pairwise fun (later earlier : Tick S) =>
      earlier.nowMs.toInt + interval ≤ later.nowMs.toInt) :
    ∀ t ∈ ticks, ∀ id o, t.rates.baselines.get? id = some o →
      o.timeMs.toInt + interval ≤ t.nowMs.toInt := by
  induction ticks with
  | nil => exact nofun
  | cons t earlier ih =>
    rw [List.pairwise_cons] at hspaced
    intro t' ht' id o hget
    rcases List.mem_cons.mp ht' with rfl | ht'
    · obtain ⟨t₀, ht₀, htime⟩ := h.1 id o hget
      rw [← htime]
      exact hspaced.1 t₀ ht₀
    · exact ih h.2 hspaced.2 t' ht' id o hget

/-- Iterations are at least an interval apart, and so are their passes. -/
theorem Spaced.apart {givenMs : Int64} (h : Spaced setup givenMs its) :
    (its.filterMap (·.tick?)).Pairwise fun (later earlier : Tick S) =>
      earlier.nowMs.toInt + setup.intervalMs ≤ later.nowMs.toInt := by
  have hchain : its.IsChain fun (next it : Iteration S) =>
      it.nowMs.toInt + setup.intervalMs ≤ next.nowMs.toInt := by
    refine h.chain.imp ?_
    rintro next it ⟨_, endMs, -, -, hnext, -, -⟩
    omega
  have : IsTrans (Iteration S) fun (next it : Iteration S) =>
      it.nowMs.toInt + setup.intervalMs ≤ next.nowMs.toInt := ⟨fun a b c hab hbc => by omega⟩
  have hits := List.isChain_iff_pairwise.mp hchain
  rw [List.pairwise_filterMap]
  refine hits.imp_of_mem ?_
  intro next it hnext hit hle t ht t' ht'
  rw [h.ticks next hnext t ht, h.ticks it hit t' ht']
  exact hle

/-- **The timetable of iterations and passes.**  A loop with an interval of at least a millisecond,
whose clock showed `givenMs` when the loop got it: as long as the intervals after its iterations
are within the range of times and timers,

* an iteration begins one interval after the one before or when the flush of that one is over,
  whichever is later, and at once after a flush that has taken longer than the interval;
* every iteration but the first makes a pass at its time, and the first does exactly if an interval
  is over since the loop got its clock;
* these are all the passes that the loop makes;
* passes are at least an interval apart, so the rate of a counter is computed over a time that has
  passed. -/
theorem Timetable.schedule {givenMs : Int64}
    (h : Timetable setup sur others given s₀ now its st s)
    (hgiven : setup.clock.nowMs? given = some givenMs) (hinterval : 1 ≤ setup.intervalMs)
    (hfits : ∀ it ∈ its, it.Fits setup) :
    (∀ it ∈ its, setup.clock.nowMs? it.begunAt = some it.nowMs ∧
      ∀ t, it.tick? = some t → t.nowMs = it.nowMs) ∧
    (its.IsChain fun (next it : Iteration S) =>
      ∃ flushedAt endMs, it.flushedAt? = some flushedAt ∧
        setup.clock.nowMs? flushedAt = some endMs ∧
        next.nowMs.toInt = max (it.nowMs.toInt + setup.intervalMs) endMs.toInt ∧
        (it.nowMs.toInt + setup.intervalMs < endMs.toInt → next.begunAt = flushedAt) ∧
        next.tick?.isSome) ∧
    (∀ first, its.getLast? = some first →
      (first.tick?.isSome ↔ givenMs.toInt + setup.intervalMs ≤ first.nowMs.toInt)) ∧
    (∃ history, Course setup sur others s₀ now history st s ∧
      ticksOf history = its.filterMap (·.tick?)) ∧
    st.stats.ticks = (its.filterMap (·.tick?)).length ∧
    ((its.filterMap (·.tick?)).Pairwise fun (later earlier : Tick S) =>
      earlier.nowMs.toInt + setup.intervalMs ≤ later.nowMs.toInt) ∧
    ∀ t ∈ its.filterMap (·.tick?), ∀ id o, t.rates.baselines.get? id = some o →
      o.timeMs.toInt < t.nowMs.toInt := by
  obtain ⟨hspaced, -⟩ := h.spaced hgiven hfits
  obtain ⟨history, hcourse, hticks⟩ := h.course
  obtain ⟨hdated, -⟩ := hcourse.dated
  have hcount := hcourse.tells.ticks
  rw [hticks] at hdated hcount
  refine ⟨fun it hit => ⟨hspaced.shown it hit, hspaced.ticks it hit⟩, hspaced.chain,
    hspaced.first, ⟨history, hcourse, hticks⟩, hcount, hspaced.apart, ?_⟩
  intro t ht id o hget
  have helapsed := hdated.elapsed hspaced.apart t ht id o hget
  omega

/-- Surroundings whose producer takes three milliseconds to flush. -/
def Surroundings.lagging : Surroundings Unit Empty :=
  { Surroundings.quiet Unit with
    channel :=
      { (Surroundings.quiet Unit).channel with
        producer :=
          { (Surroundings.quiet Unit).channel.producer with
            flush := fun s => (⟨some (.ofMillis 3), fun s => (.value (.ok ()), s)⟩, s) } } }

/-- With flushes that take longer than the interval, an iteration begins when the flush of the one
before is over, and makes its one pass. -/
theorem schedule_of_lagging :
    ∃ next first st s, Timetable .everyMilli .lagging Eq 0 () 3000000 [next, first] st s ∧
      first.tick?.isSome = false ∧ next.nowMs.toInt = 3 ∧ next.tick?.isSome = true ∧
      st.stats.ticks = 1 := by
  have h : Timetable .everyMilli .lagging Eq 0 () 3000000 _ _ _ :=
    (((Timetable.start.step rfl).wait (show 0 ≤ 3000000 by decide) (by rintro _ ⟨⟩; decide)
      rfl).step rfl).step (by decide)
  obtain ⟨-, hchain, hfirst, -, hcount, -⟩ := h.schedule rfl (by decide) <| by
    rintro it hit
    rcases List.mem_cons.mp hit with rfl | hit
    · exact ⟨by decide, by decide⟩
    · cases List.mem_singleton.mp hit
      exact ⟨by decide, by decide⟩
  obtain ⟨flushedAt, endMs, hflushed, hend, hnext, -, htick⟩ :=
    (List.isChain_cons_cons.mp hchain).1
  cases hflushed
  cases hend
  refine ⟨_, _, _, _, h, ?_, hnext, htick, hcount⟩
  have hnot := mt (hfirst _ rfl).mp (by decide)
  exact Bool.eq_false_iff.mpr hnot

end Dates

end MetricFeed
