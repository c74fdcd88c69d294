/-
MetricFeed/Proofs/Reporting/View.lean

Surroundings that are seen through a map of states.  Surroundings on states in `T` may keep more
beside what they do than others on states in `S`; seen through a map `e : T → S`, all that a
collection pass asks of them is what it asks of the others (`Surroundings.Seen`).

Main result (`Pass.run_seen`): then the pass through the ones, seen through `e`, is the pass through
the others.  So whatever is kept beside changes nothing.
-/
import MetricFeed.Proofs.Reporting.Pass

namespace MetricFeed

variable {S T H α : Type}

/-- Seen through `e`, all that a pass asks of the surroundings `sur'` is what it asks of `sur`. -/
structure Surroundings.Seen (e : T → S) (sur' : Surroundings T H) (sur : Surroundings S H) :
    Prop where
  note : ∀ n t, sur.note n (e t) = e (sur'.note n t)
  noWalk : sur'.walk = none → sur.walk = none
  walk : ∀ walk', sur'.walk = some walk' → ∃ walk, sur.walk = some walk ∧
    ∀ t, walk (e t) = ((walk' t).1, e (walk' t).2)
  registered : ∀ t, sur.registered (e t) = sur'.registered t
  idOf : sur'.idOf = sur.idOf
  read : ∀ handle t, sur.read handle (e t) = ((sur'.read handle t).1, e (sur'.read handle t).2)
  sample : ∀ id value now nodeId t, sur.converter.sample id value now nodeId (e t) =
    ((sur'.converter.sample id value now nodeId t).1,
      e (sur'.converter.sample id value now nodeId t).2)
  host : ∀ now nodeId t, sur.converter.host now nodeId (e t) =
    ((sur'.converter.host now nodeId t).1, e (sur'.converter.host now nodeId t).2)
  publish : ∀ sample t, sur.channel.publish sample (e t) =
    ((sur'.channel.publish sample t).1, e (sur'.channel.publish sample t).2)

/-- What is seen through one map and then another is seen through both. -/
theorem Surroundings.Seen.trans {R : Type} {d : R → T} {e : T → S} {sur'' : Surroundings R H}
    {sur' : Surroundings T H} {sur : Surroundings S H} (h : sur''.Seen d sur')
    (h' : sur'.Seen e sur) : sur''.Seen (fun r => e (d r)) sur where
  note n r := by rw [h'.note, h.note]
  noWalk hnone := h'.noWalk (h.noWalk hnone)
  walk walk'' hwalk'' := by
    obtain ⟨walk', hwalk', hd⟩ := h.walk walk'' hwalk''
    obtain ⟨walk, hwalk, he⟩ := h'.walk walk' hwalk'
    exact ⟨walk, hwalk, fun r => by rw [he, hd]⟩
  registered r := by rw [h'.registered, h.registered]
  idOf := h.idOf.trans h'.idOf
  read handle r := by rw [h'.read, h.read]
  sample id value now nodeId r := by rw [h'.sample, h.sample]
  host now nodeId r := by rw [h'.host, h.host]
  publish sample r := by rw [h'.publish, h.publish]

/-- What a pass works on, seen through a map of states. -/
def PassState.through (e : T → S) (p : PassState T) : PassState S :=
  { state := e p.state, rates := p.rates, walked := p.walked, published := p.published }

namespace Pass

open Act (Maps)

variable {e : T → S} {sur' : Surroundings T H} {sur : Surroundings S H}
variable {nodeId : Int32} {now : Int64}

theorem ask_seen {f : T → Reply α × T} {g : S → Reply α × S}
    (h : ∀ t, g (e t) = ((f t).1, e (f t).2)) : Maps (PassState.through e) (ask f) (ask g) := by
  intro p
  unfold ask
  have hg : g (p.through e).state = ((f p.state).1, e (f p.state).2) := h p.state
  rw [hg]
  rcases f p.state with ⟨_ | _, t⟩ <;> rfl

section Stages

variable (h : sur'.Seen e sur)

include h

theorem say_seen (n : Notice) : Maps (PassState.through e) (say sur' n) (say sur n) := by
  refine Maps.change fun p => ?_
  show ({ p.through e with state := sur.note n (e p.state) } : PassState S) = _
  rw [h.note]
  rfl

theorem publish_seen (sample : Sample) :
    Maps (PassState.through e) (publish sur' sample) (publish sur sample) := by
  refine Maps.bind (ask_seen (h.publish sample)) ?_
  rintro (_ | _)
  · exact Maps.cut _
  · exact Maps.pure _

theorem visit_seen (metric : LegacyMetric) :
    Maps (PassState.through e) (visit sur' nodeId now metric) (visit sur nodeId now metric) := by
  refine Maps.bind (say_seen h _) fun _ => ?_
  refine Maps.bind (fun _ => rfl) ?_
  rintro (_ | value)
  · exact Maps.pure _
  · refine Maps.bind (ask_seen (h.sample _ _ _ _)) ?_
    rintro (_ | sample)
    · exact Maps.pure _
    · refine Maps.bind (publish_seen h sample) fun _ => ?_
      exact Maps.change fun _ => rfl

theorem walk_seen (w : Walk) :
    Maps (PassState.through e)
      (w.run (fun m => say sur' (.visitingLegacy m.id)) (visit sur' nodeId now))
      (w.run (fun m => say sur (.visitingLegacy m.id)) (visit sur nodeId now)) := by
  obtain ⟨metrics, ending, announced⟩ := w
  refine Maps.bind ?_ fun _ => ?_
  · induction metrics with
    | nil => exact Maps.pure _
    | cons m rest ih =>
      refine Maps.bind ?_ fun _ => ?_
      · cases announced
        · exact Maps.pure _
        · exact say_seen h _
      · exact Maps.bind (visit_seen h m) fun _ => ih
  · rcases ending with _ | _ | _
    · exact Maps.pure _
    · exact Maps.cut _
    · exact Maps.cut _

theorem reportLegacy_seen :
    Maps (PassState.through e) (reportLegacy sur' nodeId now) (reportLegacy sur nodeId now) := by
  unfold reportLegacy
  rcases hw' : sur'.walk with _ | walk'
  · rw [h.noWalk hw']
    exact Maps.pure _
  · obtain ⟨walk, hw, hwalk⟩ := h.walk walk' hw'
    rw [hw]
    refine Maps.bind (say_seen h _) fun _ => ?_
    refine Maps.bind (ask_seen fun t => ?_) fun w => ?_
    · rw [hwalk]
    refine Maps.bind (Maps.change fun _ => rfl) fun _ => ?_
    refine Maps.bind (Maps.attempt (walk_seen h w)) ?_
    -- the walk has failed, has panicked, or is completed
    rintro ((fault | _) | _)
    · refine Maps.bind (Maps.change fun _ => rfl) fun _ => ?_
      exact Maps.cut _
    · exact Maps.cut _
    · refine Maps.bind (Maps.change fun _ => rfl) fun _ => ?_
      refine Maps.bind (Maps.change fun _ => rfl) fun _ => ?_
      exact say_seen h _

theorem reportHandle_seen (handle : H) :
    Maps (PassState.through e) (reportHandle sur' nodeId now handle)
      (reportHandle sur nodeId now handle) := by
  unfold reportHandle
  rw [h.idOf]
  refine Maps.bind (say_seen h _) fun _ => ?_
  refine Maps.bind (ask_seen (h.read handle)) fun value => ?_
  refine Maps.bind (ask_seen (h.sample _ _ _ _)) ?_
  rintro (_ | sample)
  · exact Maps.pure _
  · exact Maps.bind (publish_seen h sample) fun _ => Maps.change fun _ => rfl

theorem reportHandles_seen (handles : List H) :
    Maps (PassState.through e) (reportHandles sur' nodeId now handles)
      (reportHandles sur nodeId now handles) := by
  induction handles with
  | nil => exact Maps.pure _
  | cons handle rest ih => exact Maps.bind (reportHandle_seen h handle) fun _ => ih

/-- The metrics that are registered are the same, whichever way the state is seen. -/
theorem reportLive_seen :
    Maps (PassState.through e) (reportLive sur' nodeId now) (reportLive sur nodeId now) := by
  refine Maps.bind ?_ fun _ => ?_
  · refine Maps.bind (fun p => ?_) fun handles => ?_
    · show (Except.ok (sur.registered (e p.state)), _) = _
      rw [h.registered]
    refine Maps.bind (say_seen h _) fun _ => ?_
    refine Maps.bind (reportHandles_seen h handles) fun _ => ?_
    exact say_seen h _
  · refine Maps.bind (say_seen h _) fun _ => ?_
    refine Maps.bind (ask_seen (h.host _ _)) ?_
    rintro (_ | sample)
    · exact Maps.cut _
    · exact Maps.bind (publish_seen h sample) fun _ => Maps.change fun _ => rfl

/-- **What is kept beside changes nothing**: seen through `e`, the one pass is the other. -/
theorem run_seen :
    Maps (PassState.through e) (run sur' nodeId now) (run sur nodeId now) := by
  rw [run_eq, run_eq]
  exact Maps.bind (reportLegacy_seen h) fun _ => reportLive_seen h

end Stages

end Pass

end MetricFeed
