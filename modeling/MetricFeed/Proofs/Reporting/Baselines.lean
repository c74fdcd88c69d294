/-
MetricFeed/Proofs/Reporting/Baselines.lean

Which counters have a baseline in the course of a loop.  A visit of a counter sets its baseline
and enters the counter among those visited.  A completed walk drops the baselines of all counters
that have not been entered and starts the entries anew; a walk that fails does neither.  So the
counters that failed walks have visited are carried over (`carried`), and the completed walk that
comes next keeps their baselines whether or not it visits them itself.

* `Walk.presented` : the metrics that a walk presents before a visitor cuts it short;
* `Tick.rates_final` : what a pass does to the rates;
* `Course.baselines_after_walk` : after a completed walk, the counters with a baseline are those
  visited in it and those carried over.
-/
import MetricFeed.Proofs.Reporting.Course

namespace MetricFeed

open Act (Keeps Ensures)

variable {S H σ : Type}

/-! ### Observing metrics -/

/-- The identity of a metric that is a counter. -/
def LegacyMetric.counter? (m : LegacyMetric) : Option MetricId :=
  match m.value with
  | .counter _ => some m.id
  | .gauge _ | .histogram _ _ | .summary _ _ => none

namespace Rates

/-- What is remembered after several metrics are visited. -/
def observeAll (r : Rates) (now : Int64) (ms : List LegacyMetric) : Rates :=
  ms.foldl (fun r m => (r.observe m now).1) r

theorem visited_observe (r : Rates) (m : LegacyMetric) (now : Int64) :
    (r.observe m now).1.visited = m.counter?.toList ++ r.visited := by
  obtain ⟨id, value⟩ := m
  cases value <;> rfl

theorem contains_observe (r : Rates) (m : LegacyMetric) (now : Int64) (id : MetricId) :
    (r.observe m now).1.baselines.contains id = true ↔
      m.counter? = some id ∨ r.baselines.contains id = true := by
  obtain ⟨mid, value⟩ := m
  cases value with
  | counter count =>
    show ((r.baselines.insert mid _).get? id).isSome = true ↔ some mid = some id ∨ _
    rw [Table.get?_insert]
    by_cases h : id = mid
    · rw [if_pos h, h]
      simp
    · rw [if_neg h]
      simp [Table.contains, Ne.symm h]
  | gauge value => simp [observe, LegacyMetric.counter?]
  | histogram count sum => simp [observe, LegacyMetric.counter?]
  | summary count sum => simp [observe, LegacyMetric.counter?]

/-- What the visit of a counter brings about, and no other visit takes away, holds after several
visits if one of them is of that counter, or if it held before. -/
theorem observeAll_iff {now : Int64} {id : MetricId} {P : Rates → Prop}
    (h : ∀ r m, P (r.observe m now).1 ↔ m.counter? = some id ∨ P r) (r : Rates)
    (ms : List LegacyMetric) :
    P (r.observeAll now ms) ↔ id ∈ ms.filterMap LegacyMetric.counter? ∨ P r := by
  induction ms generalizing r with
  | nil => simp [observeAll]
  | cons m rest ih =>
    show P ((r.observe m now).1.observeAll now rest) ↔ _
    rw [ih, h, List.filterMap_cons]
    rcases m.counter? with _ | c
    · simp
    · rw [List.mem_cons, Option.some.injEq, eq_comm, or_left_comm, or_assoc]

theorem mem_visited_observeAll (r : Rates) (now : Int64) (ms : List LegacyMetric)
    (id : MetricId) :
    id ∈ (r.observeAll now ms).visited ↔
      id ∈ ms.filterMap LegacyMetric.counter? ∨ id ∈ r.visited := by
  apply observeAll_iff (P := fun r => id ∈ r.visited)
  intro r m
  simp [visited_observe]

theorem contains_observeAll (r : Rates) (now : Int64) (ms : List LegacyMetric) (id : MetricId) :
    (r.observeAll now ms).baselines.contains id = true ↔
      id ∈ ms.filterMap LegacyMetric.counter? ∨ r.baselines.contains id = true := by
  apply observeAll_iff (P := fun r => r.baselines.contains id = true)
  exact fun r m => contains_observe r m now id

theorem contains_finishWalk (r : Rates) (id : MetricId) :
    r.finishWalk.baselines.contains id = true ↔
      id ∈ r.visited ∧ r.baselines.contains id = true := by
  unfold Table.contains
  rw [get?_finishWalk]
  -- a counter that has not been entered loses its baseline
  by_cases h : id ∈ r.visited
  · simp [h]
  · simp [h]

/-- The visit of a counter without a baseline has no value to report. -/
theorem observe_of_not_contains {r : Rates} {id : MetricId}
    (h : r.baselines.contains id = false) (count : Float) (now : Int64) :
    (r.observe ⟨id, .counter count⟩ now).2 = none := by
  have hn : r.baselines.get? id = none := by
    simpa [Table.contains] using h
  show (r.baselines.get? id).bind _ = none
  rw [hn]
  rfl

end Rates

/-! ### What a walk presents -/

namespace Walk

/-- The metrics that are presented until an announcement or a visitor cuts the walk short. -/
def presented (announce visit : LegacyMetric → Act σ Unit) : List LegacyMetric → σ →
    List LegacyMetric
  | [], _ => []
  | m :: rest, s =>
    match announce m s with
    | (.error _, _) => []
    | (.ok _, s) =>
      m ::
        match visit m s with
        | (.error _, _) => []
        | (.ok _, s) => presented announce visit rest s

/-- A walk that no visitor cuts short presents all its metrics. -/
theorem presented_eq_of_present {announce visit : LegacyMetric → Act σ Unit}
    {metrics : List LegacyMetric} {s s' : σ}
    (h : present announce visit metrics s = (.ok (), s')) :
    presented announce visit metrics s = metrics := by
  induction metrics generalizing s with
  | nil => rfl
  | cons m rest ih =>
    unfold present at h
    rw [Act.bind_apply] at h
    unfold presented
    rcases ha : announce m s with ⟨_ | _, s₁⟩
    · -- a cut here would have cut the whole
      rw [ha] at h
      cases h
    · rw [ha] at h
      dsimp only at h ⊢
      rw [Act.bind_apply] at h
      rcases hv : visit m s₁ with ⟨_ | _, s₂⟩
      · rw [hv] at h
        cases h
      · rw [hv] at h
        dsimp only at h ⊢
        rw [ih h]

end Walk

namespace Pass

variable {sur : Surroundings S H} {nodeId : Int32} {now : Int64}

/-- Whatever becomes of a metric's sample, its conversion changes the rates by the observation. -/
theorem convertLegacy_rates {converter : Converter S} {sink : Sample → Act (PassState S) Unit}
    (hsink : ∀ sample r, Keeps (fun p : PassState S => p.rates = r) (sink sample))
    (m : LegacyMetric) (p : PassState S) :
    (convertLegacy converter sink nodeId now m p).2.rates = (p.rates.observe m now).1 := by
  refine Ensures.bind (P := fun q => q = p)
    (R := fun _ q => q.rates = (p.rates.observe m now).1)
    (Q := fun _ q => q.rates = (p.rates.observe m now).1) ?_ ?_ ?_ p rfl
  · rintro _ rfl
    rfl
  · rintro (_ | value)
    · exact Keeps.pure _
    · refine Keeps.bind (keeps_ask fun _ hq => hq) ?_
      rintro (_ | sample)
      · exact Keeps.pure _
      · exact hsink sample _
  · exact fun _ _ hq => hq

/-- Publishing within a walk leaves the rates alone. -/
theorem publishWalked_rates (sample : Sample) (r : Rates) :
    Keeps (fun p : PassState S => p.rates = r) (publishWalked sur sample) :=
  Keeps.bind (keeps_publish fun _ hq => hq) fun _ => Keeps.change fun _ hq => hq

/-- A visit changes the rates by its observation, however it ends. -/
theorem visit_rates (m : LegacyMetric) (p : PassState S) :
    (visit sur nodeId now m p).2.rates = (p.rates.observe m now).1 :=
  convertLegacy_rates publishWalked_rates m
    { p with state := sur.note (.processingLegacy m.id) p.state }

theorem present_rates {announce : LegacyMetric → Act (PassState S) Unit}
    (ha : ∀ m r, Keeps (fun p : PassState S => p.rates = r) (announce m))
    (metrics : List LegacyMetric) (p : PassState S) :
    (Walk.present announce (visit sur nodeId now) metrics p).2.rates =
      p.rates.observeAll now (Walk.presented announce (visit sur nodeId now) metrics p) := by
  induction metrics generalizing p with
  | nil => rfl
  | cons m rest ih =>
    have hm := ha m p.rates p rfl
    unfold Walk.present Walk.presented
    rw [Act.bind_apply]
    revert hm
    rcases announce m p with ⟨_ | _, q⟩
    · -- cut by the announcement: nothing is presented
      exact fun hm => hm
    · intro hm
      have hv : (visit sur nodeId now m q).2.rates = (q.rates.observe m now).1 := visit_rates m q
      dsimp only at hm ⊢
      rw [Act.bind_apply]
      rw [hm] at hv
      revert hv
      rcases visit sur nodeId now m q with ⟨_ | _, q'⟩
      · -- cut by the visit, which has observed `m` nevertheless
        exact fun hv => hv
      · intro hv
        show (Walk.present announce (visit sur nodeId now) rest q').2.rates =
          (p.rates.observe m now).1.observeAll now _
        rw [ih q', hv]

/-- What is said before a metric is visited. -/
def announcing (sur : Surroundings S H) (announced : Bool) :
    LegacyMetric → Act (PassState S) Unit :=
  if announced then fun m => say sur (.visitingLegacy m.id) else fun _ => pure ()

theorem announcing_rates (announced : Bool) (m : LegacyMetric) (r : Rates) :
    Keeps (fun p : PassState S => p.rates = r) (announcing sur announced m) := by
  cases announced
  · exact Keeps.pure _
  · exact keeps_say fun _ hp => hp

/-- The metrics that the walk of a pass presents. -/
def presentedFrom (sur : Surroundings S H) (nodeId : Int32) (now : Int64) (walk : S → Walk × S)
    (p : PassState S) : List LegacyMetric :=
  Walk.presented (announcing sur (walk (sur.note .reportingLegacy p.state)).1.announced)
    (visit sur nodeId now) (walk (sur.note .reportingLegacy p.state)).1.metrics
    { p with state := (walk (sur.note .reportingLegacy p.state)).2, walked := 0 }

/-- However a walk ends, the metrics that it has presented have been observed. -/
theorem walkFrom_rates (walk : S → Walk × S) (p : PassState S) :
    (walkFrom sur nodeId now walk p).2.rates =
      p.rates.observeAll now (presentedFrom sur nodeId now walk p) := by
  have h : (Walk.present (announcing sur (walk (sur.note .reportingLegacy p.state)).1.announced)
      (visit sur nodeId now) (walk (sur.note .reportingLegacy p.state)).1.metrics
      { p with state := (walk (sur.note .reportingLegacy p.state)).2, walked := 0 }).2.rates =
        p.rates.observeAll now (presentedFrom sur nodeId now walk p) :=
    present_rates (announcing_rates _) _ _
  refine Ensures.bind (P := fun q => q =
      { p with state := (walk (sur.note .reportingLegacy p.state)).2, walked := 0 })
    (R := fun _ q => q.rates =
      p.rates.observeAll now (presentedFrom sur nodeId now walk p))
    (Q := fun _ q => q.rates =
      p.rates.observeAll now (presentedFrom sur nodeId now walk p)) ?_ (fun _ => ?_) ?_ _ rfl
  · rintro _ rfl
    exact h
  · exact finish_keeps _
  · exact fun _ _ hq => hq

/-- A completed walk has presented all metrics of the registry. -/
theorem presentedFrom_of_completed {walk : S → Walk × S} {p q : PassState S}
    (h : walkFrom sur nodeId now walk p = (.ok (), q)) :
    presentedFrom sur nodeId now walk p =
      (walk (sur.note .reportingLegacy p.state)).1.metrics := by
  unfold walkFrom Walk.run at h
  rw [Act.bind_apply] at h
  unfold presentedFrom
  rcases hp : Walk.present _ (visit sur nodeId now)
    (walk (sur.note .reportingLegacy p.state)).1.metrics _ with ⟨_ | _, q'⟩
  · rw [hp] at h
    cases h
  · exact Walk.presented_eq_of_present hp

/-- The stages after the walk leave the rates alone. -/
theorem reportLive_rates (r : Rates) :
    Keeps (fun p : PassState S => p.rates = r) (reportLive sur nodeId now) := by
  refine reportLive_keeps ⟨?_, ?_, ?_, ?_, ?_⟩
  · exact fun _ => keeps_say fun _ hp => hp
  · exact fun _ => keeps_ask fun _ hp => hp
  · exact fun _ _ => keeps_ask fun _ hp => hp
  · exact keeps_ask fun _ hp => hp
  · exact fun _ => Keeps.bind (keeps_publish fun _ hp => hp) fun _ => Keeps.change fun _ hp => hp

end Pass

/-! ### Ticks -/

namespace Tick

/-- The metrics that the walk of a pass presents. -/
def presented (setup : LoopSetup) (sur : Surroundings S H) (t : Tick S) : List LegacyMetric :=
  match sur.walk with
  | none => []
  | some walk => Pass.presentedFrom sur setup.nodeId t.nowMs walk (t.start sur)

/-- The counters that the walk of a pass visits. -/
def visited (setup : LoopSetup) (sur : Surroundings S H) (t : Tick S) : List MetricId :=
  (t.presented setup sur).filterMap LegacyMetric.counter?

/-- Whether there is a walk and it is completed. -/
def walkCompleted (setup : LoopSetup) (sur : Surroundings S H) (t : Tick S) : Bool :=
  match sur.walk with
  | none => false
  | some walk =>
    match Pass.walkFrom sur setup.nodeId t.nowMs walk (t.start sur) with
    | (.ok _, _) => true
    | (.error _, _) => false

variable {setup : LoopSetup} {sur : Surroundings S H}

/-- What a pass does to the rates: what its walk presents is observed, and a completed walk makes
them forget. -/
theorem rates_final (t : Tick S) :
    (t.final setup sur).rates =
      bif t.walkCompleted setup sur then
        (t.rates.observeAll t.nowMs (t.presented setup sur)).finishWalk
      else t.rates.observeAll t.nowMs (t.presented setup sur) := by
  unfold final walkCompleted presented
  rw [Pass.run_eq, Act.bind_apply]
  rcases hwalk : sur.walk with _ | walk
  · rw [Pass.reportLegacy_of_none hwalk]
    exact Pass.reportLive_rates _ _ rfl
  · rw [Pass.reportLegacy_of_some hwalk]
    have hr : (Pass.walkFrom sur setup.nodeId t.nowMs walk (t.start sur)).2.rates =
        t.rates.observeAll t.nowMs
          (Pass.presentedFrom sur setup.nodeId t.nowMs walk (t.start sur)) :=
      Pass.walkFrom_rates walk _
    dsimp only
    revert hr
    rcases Pass.walkFrom sur setup.nodeId t.nowMs walk (t.start sur) with ⟨(fault | _) | _, q⟩
    · exact fun hr => hr
    · exact fun hr => hr
    · -- only a completed walk makes the rates forget, and is followed by other stages
      intro hr
      exact Pass.reportLive_rates _ _ (congrArg Rates.finishWalk hr)

/-- A completed walk presents all metrics that the registry has. -/
theorem presented_of_completed {t : Tick S} (h : t.walkCompleted setup sur = true) :
    ∃ walk, sur.walk = some walk ∧ t.presented setup sur =
      (walk (sur.note .reportingLegacy (t.start sur).state)).1.metrics := by
  unfold walkCompleted at h
  unfold presented
  rcases hwalk : sur.walk with _ | walk
  · rw [hwalk] at h
    cases h
  · rw [hwalk] at h
    refine ⟨walk, rfl, ?_⟩
    dsimp only at h ⊢
    rcases hq : Pass.walkFrom sur setup.nodeId t.nowMs walk (t.start sur) with ⟨_ | _, q⟩
    · rw [hq] at h
      cases h
    · exact Pass.presentedFrom_of_completed hq

end Tick

/-! ### Courses -/

section Courses

variable {setup : LoopSetup} {sur : Surroundings S H} {others : S → S → Prop} {s₀ s : S}
variable {now : Nat} {history : List (LoopEvent S)} {st : LoopState S}

/-- The counters that passes, the latest first, have visited since the last completed walk. -/
def carried (setup : LoopSetup) (sur : Surroundings S H) : List (Tick S) → List MetricId
  | [] => []
  | t :: earlier =>
    bif t.walkCompleted setup sur then [] else t.visited setup sur ++ carried setup sur earlier

/-- The counters that have a baseline after passes, the latest first. -/
def kept (setup : LoopSetup) (sur : Surroundings S H) : List (Tick S) → List MetricId
  | [] => []
  | t :: earlier =>
    t.visited setup sur ++
      bif t.walkCompleted setup sur then carried setup sur earlier else kept setup sur earlier

theorem mem_kept_of_mem_carried {ticks : List (Tick S)} {id : MetricId}
    (h : id ∈ carried setup sur ticks) : id ∈ kept setup sur ticks := by
  induction ticks with
  | nil => exact h
  | cons t earlier ih =>
    unfold carried at h
    unfold kept
    cases hw : t.walkCompleted setup sur with
    | true =>
      rw [hw] at h
      cases h
    | false =>
      rw [hw] at h
      rcases List.mem_append.mp h with hv | hc
      · exact List.mem_append_left _ hv
      · exact List.mem_append_right _ (ih hc)

/-- What is remembered after passes, the latest first. -/
structure Rates.Follows (setup : LoopSetup) (sur : Surroundings S H) (ticks : List (Tick S))
    (r : Rates) : Prop where
  mem_visited : ∀ id, id ∈ r.visited ↔ id ∈ carried setup sur ticks
  contains : ∀ id, r.baselines.contains id = true ↔ id ∈ kept setup sur ticks

theorem Rates.Follows.tick {ticks : List (Tick S)} {t : Tick S}
    (h : t.rates.Follows setup sur ticks) :
    (t.final setup sur).rates.Follows setup sur (t :: ticks) := by
  have hv : ∀ id, id ∈ (t.rates.observeAll t.nowMs (t.presented setup sur)).visited ↔
      id ∈ t.visited setup sur ++ carried setup sur ticks := by
    intro id
    rw [Rates.mem_visited_observeAll, List.mem_append, h.mem_visited]
    rfl
  have hb : ∀ id,
      (t.rates.observeAll t.nowMs (t.presented setup sur)).baselines.contains id = true ↔
        id ∈ t.visited setup sur ++ kept setup sur ticks := by
    intro id
    rw [Rates.contains_observeAll, List.mem_append, h.contains]
    rfl
  rw [t.rates_final]
  cases hw : t.walkCompleted setup sur with
  | true =>
    refine ⟨fun id => ?_, fun id => ?_⟩
    · unfold carried
      rw [hw]
      exact Iff.rfl
    · unfold kept
      rw [hw]
      show (Rates.finishWalk _).baselines.contains id = true ↔
        id ∈ t.visited setup sur ++ carried setup sur ticks
      rw [Rates.contains_finishWalk, hv, hb, List.mem_append, List.mem_append]
      -- whatever has been entered has a baseline, so being entered decides
      refine ⟨fun hid => hid.1, fun hid => ⟨hid, ?_⟩⟩
      exact hid.imp_right mem_kept_of_mem_carried
  | false =>
    refine ⟨fun id => ?_, fun id => ?_⟩
    · unfold carried
      rw [hw]
      exact hv id
    · unfold kept
      rw [hw]
      exact hb id

/-- Throughout a course, what is remembered follows its passes. -/
theorem Course.follows (h : Course setup sur others s₀ now history st s) :
    st.rates.Follows setup sur (ticksOf history) := by
  refine h.invariant (I := fun history rates _ _ => rates.Follows setup sur (ticksOf history))
    sur.idleWithin_true ?_ ?_ ?_ ?_ ?_
  · exact ⟨fun _ => Iff.rfl, fun _ => ⟨nofun, nofun⟩⟩
  · exact fun _ hi => hi
  · exact fun _ hi => hi
  · exact fun _ hi => hi.tick
  · exact fun hi => hi

/-- **Baselines after a completed walk.**  As long as the latest pass is one whose walk was
completed, and so presented all that the registry has, the counters with a baseline are those
visited in that walk and those carried over from failed walks since the completed one before it.
So they are exactly the counters visited in the walk if and only if it visits whatever is carried
over.  The next visit of a counter that is neither has no value to report, whatever is visited
before it. -/
theorem Course.baselines_after_walk (h : Course setup sur others s₀ now history st s)
    {t : Tick S} {earlier : List (Tick S)} (ht : ticksOf history = t :: earlier)
    (hw : t.walkCompleted setup sur = true) :
    (∃ walk, sur.walk = some walk ∧ t.presented setup sur =
      (walk (sur.note .reportingLegacy (t.start sur).state)).1.metrics) ∧
    (∀ id, st.rates.baselines.contains id = true ↔
      id ∈ t.visited setup sur ∨ id ∈ carried setup sur earlier) ∧
    ((∀ id, st.rates.baselines.contains id = true ↔ id ∈ t.visited setup sur) ↔
      ∀ id ∈ carried setup sur earlier, id ∈ t.visited setup sur) ∧
    (∀ id, id ∉ t.visited setup sur → id ∉ carried setup sur earlier →
      ∀ nowMs before, (∀ m ∈ before, m.counter? ≠ some id) → ∀ count,
        ((st.rates.observeAll nowMs before).observe ⟨id, .counter count⟩ nowMs).2 = none) := by
  have hkept : ∀ id, st.rates.baselines.contains id = true ↔
      id ∈ t.visited setup sur ∨ id ∈ carried setup sur earlier := by
    intro id
    rw [h.follows.contains, ht]
    unfold kept
    rw [hw]
    exact List.mem_append
  refine ⟨Tick.presented_of_completed hw, hkept,
    ⟨fun hexact id hc => ?_, fun hall id => ?_⟩, ?_⟩
  · exact (hexact id).mp ((hkept id).mpr (.inr hc))
  · rw [hkept id]
    exact ⟨fun hid => hid.elim (fun hv => hv) (hall id), .inl⟩
  · intro id hv hc nowMs before hbefore count
    apply Rates.observe_of_not_contains
    rw [Bool.eq_false_iff, ne_eq, Rates.contains_observeAll, hkept id]
    rintro (hm | hid | hid)
    · obtain ⟨m, hmem, heq⟩ := List.mem_filterMap.mp hm
      exact hbefore m hmem heq
    · exact hv hid
    · exact hc hid

/-- Surroundings whose registry is walked as told, one walk after the other. -/
def Surroundings.walked : Surroundings (List Walk) Empty :=
  { Surroundings.quiet (List Walk) with
    walk := some fun ws => (ws.headD ⟨[], .complete, false⟩, ws.tail) }

/-- A walk that presents one counter. -/
def Walk.ofCounter (id : MetricId) (ending : WalkEnding) : Walk :=
  ⟨[⟨id, .counter 1⟩], ending, false⟩

/-- A counter that a failed walk has visited keeps its baseline when the registry is walked to its
end without it. -/
theorem baseline_outlives_walk :
    ∃ now history st s, Course .everyMilli .walked Eq
        [.ofCounter ⟨"requests", "failed", .empty⟩ (.failed "down"),
          .ofCounter ⟨"requests", "served", .empty⟩ .complete] now history st s ∧
      ∃ t earlier, ticksOf history = t :: earlier ∧ t.walkCompleted .everyMilli .walked = true ∧
        ∃ id, st.rates.baselines.contains id = true ∧ id ∉ t.visited .everyMilli .walked := by
  have hc : Course .everyMilli .walked Eq
      [.ofCounter ⟨"requests", "failed", .empty⟩ (.failed "down"),
        .ofCounter ⟨"requests", "served", .empty⟩ .complete] _ _ _ _ :=
    (((((Course.start 0).wait (Nat.zero_le 1000000) rfl).step rfl).step rfl).wait
      (show 1000000 ≤ 2000000 by decide) rfl).step (by decide)
  exact ⟨_, _, _, _, hc, _, _, rfl, rfl, ⟨"requests", "failed", .empty⟩, by decide, by decide⟩

/-- With nothing carried over, the counters of a completed walk are the ones with a baseline. -/
theorem baselines_after_first_walk :
    ∃ now history st s t, Course .everyMilli .walked Eq
        [.ofCounter ⟨"requests", "served", .empty⟩ .complete] now history st s ∧
      ticksOf history = [t] ∧ t.walkCompleted .everyMilli .walked = true ∧
      ∀ id, st.rates.baselines.contains id = true ↔ id ∈ t.visited .everyMilli .walked := by
  have hc : Course .everyMilli .walked Eq
      [.ofCounter ⟨"requests", "served", .empty⟩ .complete] _ _ _ _ :=
    ((Course.start 0).wait (Nat.zero_le 1000000) rfl).step rfl
  obtain ⟨-, -, hexact, -⟩ := hc.baselines_after_walk rfl rfl
  exact ⟨_, _, _, _, _, hc, rfl, rfl, hexact.mpr nofun⟩

end Courses

end MetricFeed
