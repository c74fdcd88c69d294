/-
MetricFeed/Proofs/Reporting/Pass.lean

Invariants of a collection pass.  A pass is made of a few elementary actions: it says something in
the log, asks a collaborator, observes a legacy metric, and publishes a sample.  What each of them
keeps is kept by the stages that are built of them (`reportRegistered_keeps`,
`reportHost_keeps`, `walk_keeps`), wherever a fault or a panic cuts a stage short.

* `Invariant` is for the stages over the registered metrics and the host, in which a sample is
  published and counted in one go (`report`);
* `WalkInvariant` is for the walk over the legacy registry, whose samples count only when the walk
  is over.
-/
import MetricFeed.Proofs.Act
import MetricFeed.Reporting.Pass

namespace MetricFeed.Pass

open Act (Keeps)

variable {S H : Type} {sur : Surroundings S H} {nodeId : Int32} {now : Int64}
variable {I : PassState S → Prop}

/-! ### Elementary actions -/

/-- Asking a collaborator changes nothing but the state of the surroundings. -/
theorem ask_snd {α : Type} (f : S → Reply α × S) (p : PassState S) :
    (ask f p).2 = { p with state := (f p.state).2 } := by
  unfold ask
  rcases f p.state with ⟨_ | _, s⟩ <;> rfl

theorem keeps_ask {α : Type} {f : S → Reply α × S}
    (h : ∀ p, I p → I { p with state := (f p.state).2 }) : Keeps I (ask f) := by
  intro p hp
  rw [ask_snd]
  exact h p hp

theorem keeps_say {n : Notice} (h : ∀ p, I p → I { p with state := sur.note n p.state }) :
    Keeps I (say sur n) :=
  Keeps.change h

/-- Publishing asks the channel; whether it was refused only decides how the action ends. -/
theorem keeps_publish {sample : Sample}
    (h : ∀ p, I p → I { p with state := (sur.channel.publish sample p.state).2 }) :
    Keeps I (publish sur sample) := by
  refine Keeps.bind (keeps_ask h) ?_
  rintro (_ | _)
  · exact Keeps.cut _
  · exact Keeps.pure _

/-! ### The registered metrics and the host -/

/-- What is kept by the elementary actions of the stages after the walk. -/
structure Invariant (sur : Surroundings S H) (nodeId : Int32) (now : Int64)
    (I : PassState S → Prop) : Prop where
  say : ∀ n, Keeps I (say sur n)
  read : ∀ handle, Keeps I (ask (sur.read handle))
  sample : ∀ id value, Keeps I (ask (sur.converter.sample id value now nodeId))
  host : Keeps I (ask (sur.converter.host now nodeId))
  report : ∀ sample, Keeps I (publish sur sample >>= fun _ => countPublished 1)

theorem reportHandle_keeps (h : Invariant sur nodeId now I) (handle : H) :
    Keeps I (reportHandle sur nodeId now handle) := by
  refine Keeps.bind (h.say _) fun _ => ?_
  refine Keeps.bind (h.read handle) fun value => ?_
  refine Keeps.bind (h.sample _ value) ?_
  rintro (_ | sample)
  · exact Keeps.pure _
  · exact h.report sample

theorem reportHandles_keeps (h : Invariant sur nodeId now I) (handles : List H) :
    Keeps I (reportHandles sur nodeId now handles) := by
  induction handles with
  | nil => exact Keeps.pure _
  | cons handle rest ih => exact Keeps.bind (reportHandle_keeps h handle) fun _ => ih

theorem reportRegistered_keeps (h : Invariant sur nodeId now I) :
    Keeps I (reportRegistered sur nodeId now) := by
  refine Keeps.bind (fun _ hp => hp) fun handles => ?_
  refine Keeps.bind (h.say _) fun _ => ?_
  refine Keeps.bind (reportHandles_keeps h handles) fun _ => ?_
  exact h.say _

theorem reportHost_keeps (h : Invariant sur nodeId now I) :
    Keeps I (reportHost sur nodeId now) := by
  refine Keeps.bind (h.say _) fun _ => ?_
  refine Keeps.bind h.host ?_
  rintro (_ | sample)
  · exact Keeps.cut _
  · exact h.report sample

/-- The two stages that follow the walk. -/
def reportLive (sur : Surroundings S H) (nodeId : Int32) (now : Int64) :
    Act (PassState S) Unit := do
  reportRegistered sur nodeId now
  reportHost sur nodeId now

theorem run_eq (sur : Surroundings S H) (nodeId : Int32) (now : Int64) :
    run sur nodeId now = (reportLegacy sur nodeId now >>= fun _ => reportLive sur nodeId now) :=
  rfl

theorem reportLive_keeps (h : Invariant sur nodeId now I) :
    Keeps I (reportLive sur nodeId now) :=
  Keeps.bind (reportRegistered_keeps h) fun _ => reportHost_keeps h

/-! ### The walk -/

/-- What is kept by the elementary actions of a walk over the legacy registry. -/
structure WalkInvariant (sur : Surroundings S H) (nodeId : Int32) (now : Int64)
    (I : PassState S → Prop) : Prop where
  say : ∀ n, Keeps I (say sur n)
  observe : ∀ metric, Keeps I (observe metric now)
  sample : ∀ id value, Keeps I (ask (sur.converter.sample id value now nodeId))
  publish : ∀ sample, Keeps I (publishWalked sur sample)

theorem visit_keeps (h : WalkInvariant sur nodeId now I) (metric : LegacyMetric) :
    Keeps I (visit sur nodeId now metric) := by
  refine Keeps.bind (h.say _) fun _ => ?_
  refine Keeps.bind (h.observe metric) ?_
  rintro (_ | value)
  · exact Keeps.pure _
  · refine Keeps.bind (h.sample _ value) ?_
    rintro (_ | sample)
    · exact Keeps.pure _
    · exact h.publish sample

theorem present_keeps {announce visit : LegacyMetric → Act (PassState S) Unit}
    (ha : ∀ m, Keeps I (announce m)) (hv : ∀ m, Keeps I (visit m)) (metrics : List LegacyMetric) :
    Keeps I (Walk.present announce visit metrics) := by
  induction metrics with
  | nil => exact Keeps.pure _
  | cons m rest ih =>
    refine Keeps.bind (ha m) fun _ => ?_
    exact Keeps.bind (hv m) fun _ => ih

theorem finish_keeps (ending : WalkEnding) : Keeps I (Walk.finish ending) := by
  rcases ending with _ | _ | _
  · exact Keeps.pure _
  · exact Keeps.cut _
  · exact Keeps.cut _

theorem walk_keeps (h : WalkInvariant sur nodeId now I) (w : Walk) :
    Keeps I (w.run (fun m => say sur (.visitingLegacy m.id)) (visit sur nodeId now)) := by
  refine Keeps.bind (present_keeps ?_ (visit_keeps h) w.metrics) fun _ => finish_keeps w.ending
  intro m
  split
  · exact h.say _
  · exact Keeps.pure _

/-! ### The stage of the walk -/

/-- The walk of a pass. -/
def walkFrom (sur : Surroundings S H) (nodeId : Int32) (now : Int64) (walk : S → Walk × S) :
    Act (PassState S) Unit := fun p =>
  (walk (sur.note .reportingLegacy p.state)).1.run (fun m => say sur (.visitingLegacy m.id))
    (visit sur nodeId now)
    { p with state := (walk (sur.note .reportingLegacy p.state)).2, walked := 0 }

/-- What follows a walk that has ended with the given outcome. -/
def closeWalk (sur : Surroundings S H) : Except Cut Unit → Act (PassState S) Unit
  | .error .panic => Act.cut .panic
  | .error (.fault fault) => do
    countWalked
    Act.cut (.fault fault)
  | .ok () => do
    countWalked
    Act.change fun p => { p with rates := p.rates.finishWalk }
    say sur .legacyReported

theorem reportLegacy_of_none (h : sur.walk = none) (p : PassState S) :
    reportLegacy sur nodeId now p = (.ok (), p) := by
  unfold reportLegacy
  rw [h]
  rfl

/-- The stage of the walk ends as the walk does.  It counts the walk's records unless the walk
panics, and makes the rates forget if the walk is completed. -/
theorem reportLegacy_of_some {walk : S → Walk × S} (h : sur.walk = some walk) (p : PassState S) :
    reportLegacy sur nodeId now p =
      match walkFrom sur nodeId now walk p with
      | (.error .panic, q) => (.error .panic, q)
      | (.error (.fault fault), q) =>
        (.error (.fault fault), { q with published := q.published + q.walked, walked := 0 })
      | (.ok (), q) =>
        (.ok (),
          { state := sur.note .legacyReported q.state
            rates := q.rates.finishWalk
            published := q.published + q.walked }) := by
  have hbind : reportLegacy sur nodeId now p =
      (Act.attempt (walkFrom sur nodeId now walk) >>= closeWalk sur) p := by
    unfold reportLegacy
    rw [h]
    rfl
  rw [hbind, Act.bind_apply, Act.attempt_apply]
  rcases walkFrom sur nodeId now walk p with ⟨(fault | _) | _, q⟩ <;> rfl

/-! ### What the surroundings do in a pass -/

/-- Whatever the surroundings do in a pass relates the states before and after by `R`. -/
structure Within (sur : Surroundings S H) (R : S → S → Prop) : Prop where
  refl : ∀ s, R s s
  trans : ∀ {s₁ s₂ s₃}, R s₁ s₂ → R s₂ s₃ → R s₁ s₃
  note : ∀ n s, R s (sur.note n s)
  walk : ∀ walk ∈ sur.walk, ∀ s, R s (walk s).2
  read : ∀ handle s, R s (sur.read handle s).2
  sample : ∀ id value now nodeId s, R s (sur.converter.sample id value now nodeId s).2
  host : ∀ now nodeId s, R s (sur.converter.host now nodeId s).2
  publish : ∀ sample s, R s (sur.channel.publish sample s).2

variable {R : S → S → Prop}

theorem reportLegacy_within (hR : Within sur R) (p : PassState S) :
    R p.state (reportLegacy sur nodeId now p).2.state := by
  rcases hwalk : sur.walk with _ | walk
  · rw [reportLegacy_of_none hwalk]
    exact hR.refl _
  · rw [reportLegacy_of_some hwalk]
    have hw : Keeps (fun q => R p.state q.state) (walkFrom sur nodeId now walk) := by
      intro q hq
      refine walk_keeps (I := fun q => R p.state q.state) ⟨?_, ?_, ?_, ?_⟩ _ _ ?_
      · exact fun n => keeps_say fun q hq => hR.trans hq (hR.note n _)
      · exact fun _ _ hq => hq
      · exact fun _ _ => keeps_ask fun q hq => hR.trans hq (hR.sample _ _ _ _ _)
      · refine fun sample => Keeps.bind (keeps_publish fun q hq => ?_) fun _ => ?_
        · exact hR.trans hq (hR.publish sample _)
        · exact Keeps.change fun _ hq => hq
      · exact hR.trans hq (hR.trans (hR.note _ _) (hR.walk walk hwalk _))
    have h := hw p (hR.refl _)
    revert h
    rcases walkFrom sur nodeId now walk p with ⟨(fault | _) | _, q⟩
    · exact fun h => h
    · exact fun h => h
    · exact fun h => hR.trans h (hR.note _ _)

theorem run_within (hR : Within sur R) (p : PassState S) :
    R p.state (run sur nodeId now p).2.state := by
  have hlive : Keeps (fun q => R p.state q.state) (reportLive sur nodeId now) := by
    refine reportLive_keeps ⟨?_, ?_, ?_, ?_, ?_⟩
    · exact fun n => keeps_say fun q hq => hR.trans hq (hR.note n _)
    · exact fun handle => keeps_ask fun q hq => hR.trans hq (hR.read handle _)
    · exact fun _ _ => keeps_ask fun q hq => hR.trans hq (hR.sample _ _ _ _ _)
    · exact keeps_ask fun q hq => hR.trans hq (hR.host _ _ _)
    · refine fun sample => Keeps.bind (keeps_publish fun q hq => ?_) fun _ => ?_
      · exact hR.trans hq (hR.publish sample _)
      · exact Keeps.change fun _ hq => hq
  rw [run_eq, Act.bind_apply]
  have h : R p.state (reportLegacy sur nodeId now p).2.state := reportLegacy_within hR p
  revert h
  rcases reportLegacy sur nodeId now p with ⟨_ | _, q⟩
  · exact fun h => h
  · exact fun h => hlive q h

end MetricFeed.Pass
