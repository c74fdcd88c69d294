/-
MetricFeed/Proofs/Reporting/Acceptance.lean

Which records the producer accepts in a collection pass.  Every stage of a pass carries out its part
of the pass's agenda, and a stage that is cut short is the last one (`Pass.Reached`).  What a visit
reports depends on what is remembered of counters, so the agenda of the walk is followed together
with the rates; what a registered metric or the host reports depends on what is read, so their
agenda is followed together with the readings.

Main result (`Tick.acceptance`): every pass carries out its agenda, wherever a collaborator fails.
The agenda is that of the readings of the pass; where a pass is cut short before all metrics have
been read, it is that of any readings that begin with those made.
-/
import MetricFeed.Proofs.Reporting.Agenda
import MetricFeed.Proofs.Reporting.Baselines
import MetricFeed.Proofs.Reporting.Published

namespace MetricFeed

open Act (Ensures)
open Agenda (Carried Stops)

variable {S H : Type}

/-! ### What is carried out in a pass -/

namespace Pass

/-- How far a traced pass has come: with its agenda, and with the readings. -/
structure Reached (sur : Surroundings S H) (agenda : Agenda) (reads : List (H × Reply Float))
    (sampled : List (Reply (Option Float))) (outcome : Except Cut Unit)
    (p : PassState (Traced S H)) : Prop where
  carried : Carried sur.channel.record agenda p.state.publications outcome
  reads : p.state.reads = reads
  sampled : p.state.sampled = sampled

/-- The agenda of the stage of the walk. -/
def legacyAgenda (sur : Surroundings S H) (groups : List String) (nodeId : Int32) (now : Int64)
    (p : PassState S) : Agenda :=
  match sur.walk with
  | none => []
  | some walk => (walk (sur.note .reportingLegacy p.state)).1.agenda groups nodeId now p.rates

section Stages

variable {sur : Surroundings S H} {groups : List String} {sampler : S → Reply (Option Float) × S}
variable {nodeId : Int32} {now : Int64} {a : Agenda}
variable {reads : List (H × Reply Float)} {sampled : List (Reply (Option Float))}

theorem Reached.more {c : Cut} {p : PassState (Traced S H)}
    (h : Reached sur a reads sampled (.error c) p) (b : Agenda) :
    Reached sur (a ++ b) reads sampled (.error c) p :=
  ⟨h.carried.more b, h.reads, h.sampled⟩

theorem Reached.nothing {o : Except Cut Unit} {p : PassState (Traced S H)}
    (h : Reached sur a reads sampled o p) : Reached sur (a ++ []) reads sampled o p := by
  rwa [List.append_nil]

/-! #### Elementary actions -/

/-- Publishing asks the channel, and ends as its reply says. -/
theorem publish_apply (sample : Sample) (p : PassState S) :
    publish sur sample p =
      ((sur.channel.publish sample p.state).1.outcome,
        { p with state := (sur.channel.publish sample p.state).2 }) := by
  unfold publish
  rw [Act.bind_apply]
  unfold ask
  rcases sur.channel.publish sample p.state with ⟨(_ | _) | _, s⟩ <;> rfl

/-- Publishing carries out an agenda of one sample. -/
theorem publish_reached (sample : Sample) :
    Ensures (Reached sur a reads sampled (.ok ()))
      (publish (sur.traced groups sampler) sample)
      (Reached sur (a ++ [.ok sample]) reads sampled) := by
  rintro p ⟨hc, rfl, rfl⟩
  rw [publish_apply]
  unfold Channel.publish
  rw [Surroundings.traced_serialize]
  rcases sur.channel.serialize sample p.state.base with ⟨(fault | payload) | message, s⟩
  · exact ⟨hc.stops (.unserialized sample [] rfl), rfl, rfl⟩
  · -- serialized, so it is up to the producer
    exact ⟨hc.sent sample payload _, rfl, rfl⟩
  · exact ⟨hc.stops (.unserialized sample [] rfl), rfl, rfl⟩

/-- What is said first leaves the trace alone. -/
theorem say_then {α : Type} {n : Notice} {f : Unit → Act (PassState (Traced S H)) α}
    {Q : Except Cut α → PassState (Traced S H) → Prop}
    (hf : Ensures (Reached sur a reads sampled (.ok ())) (f ()) Q) :
    Ensures (Reached sur a reads sampled (.ok ()))
      (say (sur.traced groups sampler) n >>= f) Q :=
  fun _ hp => hf _ ⟨hp.carried, hp.reads, hp.sampled⟩

/-- Publishing a sample and then counting it, if there is one, carries out its agenda. -/
theorem publish?_reached (sample? : Option Sample)
    {f : PassState (Traced S H) → PassState (Traced S H)} (hf : ∀ p, (f p).state = p.state) :
    Ensures (Reached sur a reads sampled (.ok ()))
      (match sample? with
        | none => pure ()
        | some sample => publish (sur.traced groups sampler) sample >>= fun _ => Act.change f)
      (Reached sur (a ++ sample?.toList.map .ok) reads sampled) := by
  rcases sample? with _ | sample
  · exact fun p hp => hp.nothing
  · refine Ensures.bind (publish_reached sample) (fun _ => ?_) fun _ _ h => h
    intro p hp
    show Reached _ _ _ _ _ (f p)
    -- counting leaves the state alone, and the state is all that is spoken of
    obtain ⟨hc, hr, hs⟩ := hp
    rw [← hf p] at hc hr hs
    exact ⟨hc, hr, hs⟩

/-! #### The walk -/

/-- A visit publishes the metric's sample, if it has one. -/
theorem visit_apply (m : LegacyMetric) (p : PassState (Traced S H)) :
    visit (sur.traced groups sampler) nodeId now m p =
      (match legacySample? groups nodeId now p.rates m with
        | none => pure ()
        | some sample => publishWalked (sur.traced groups sampler) sample)
      { p with
        state := (sur.traced groups sampler).note (.processingLegacy m.id) p.state
        rates := (p.rates.observe m now).1 } := by
  unfold visit convertLegacy legacySample?
  rw [Act.bind_apply]
  unfold say
  rw [Act.change_apply]
  dsimp only
  rw [Act.bind_apply]
  unfold observe
  rcases p.rates.observe m now with ⟨r, _ | value⟩
  · -- there is no value to report, so no sample either
    rfl
  · dsimp only [Option.bind_some]
    rw [Act.bind_apply]
    show (match Conversion.sample? groups m.id value now nodeId with
      | none => pure ()
      | some sample => publishWalked (sur.traced groups sampler) sample) _ = _
    rfl

/-- A visit carries out the agenda of the metric's sample, if it has one. -/
theorem visit_reached (r : Rates) (m : LegacyMetric) :
    Ensures
      (fun p => Reached sur a reads sampled (.ok ()) p ∧ p.rates = r)
      (visit (sur.traced groups sampler) nodeId now m)
      (fun o p =>
        Reached sur (a ++ (legacySample? groups nodeId now r m).toList.map .ok) reads sampled o p ∧
          p.rates = (r.observe m now).1) := by
  rintro p ⟨⟨hc, hr, hs⟩, rfl⟩
  refine ⟨?_, visit_rates m p⟩
  rw [visit_apply]
  exact publish?_reached (f := fun q => { q with walked := q.walked + 1 }) _ (fun _ => rfl) _
    ⟨hc, hr, hs⟩

/-- Before a metric is visited, at most something is said. -/
theorem announcing_reached (announced : Bool) (r : Rates) (m : LegacyMetric) :
    Ensures (fun p => Reached sur a reads sampled (.ok ()) p ∧ p.rates = r)
      (announcing (sur.traced groups sampler) announced m)
      (fun o p => Reached sur a reads sampled o p ∧ p.rates = r) := by
  rintro p ⟨hp, hr⟩
  cases announced
  · exact ⟨hp, hr⟩
  · -- the trace does not hold what is said
    exact ⟨⟨hp.carried, hp.reads, hp.sampled⟩, hr⟩

/-- The metrics that a walk presents are visited one after the other. -/
theorem present_reached (announced : Bool) (r : Rates) (metrics : List LegacyMetric) :
    Ensures (fun p => Reached sur a reads sampled (.ok ()) p ∧ p.rates = r)
      (Walk.present (announcing (sur.traced groups sampler) announced)
        (visit (sur.traced groups sampler) nodeId now) metrics)
      (Reached sur (a ++ (legacySamples groups nodeId now r metrics).map .ok) reads
        sampled) := by
  -- the agenda of the rest depends on what has been observed so far, so the rates go along
  induction metrics generalizing a r with
  | nil => exact fun p hp => hp.1.nothing
  | cons m rest ih =>
    have hagenda : a ++ (legacySamples groups nodeId now r (m :: rest)).map .ok =
        a ++ (legacySample? groups nodeId now r m).toList.map .ok ++
          (legacySamples groups nodeId now (r.observe m now).1 rest).map .ok := by
      rw [legacySamples, List.map_append, List.append_assoc]
    rw [hagenda]
    refine Ensures.bind (announcing_reached announced r m) (fun _ => ?_) fun _ _ h => ?_
    · refine Ensures.bind (visit_reached r m) (fun _ => ih _) fun _ _ h => ?_
      -- cut short at this metric: nothing comes of the rest
      exact h.1.more _
    · rw [List.append_assoc]
      exact h.1.more _

/-- A walk carries out the samples of its metrics and then its end. -/
theorem walk_reached (r : Rates) (w : Walk) :
    Ensures (fun p => Reached sur a reads sampled (.ok ()) p ∧ p.rates = r)
      (w.run (fun m => say (sur.traced groups sampler) (.visitingLegacy m.id))
        (visit (sur.traced groups sampler) nodeId now))
      (Reached sur (a ++ w.agenda groups nodeId now r) reads sampled) := by
  unfold Walk.agenda
  rw [← List.append_assoc]
  refine Ensures.bind (present_reached w.announced r w.metrics) (fun _ p hp => ?_)
    fun _ _ h => h.more _
  -- only a walk that no visitor has cut short comes to its own end
  rcases w.ending with _ | reason | _
  · exact hp.nothing
  · exact ⟨hp.carried.cut _, hp.reads, hp.sampled⟩
  · exact ⟨hp.carried.cut _, hp.reads, hp.sampled⟩

/-- The stage of the walk carries out the agenda of the walk, if there is one. -/
theorem reportLegacy_reached (q : PassState S) :
    Ensures
      (fun p => Reached sur a reads sampled (.ok ()) p ∧
        p.through Traced.base = q)
      (reportLegacy (sur.traced groups sampler) nodeId now)
      (Reached sur (a ++ legacyAgenda sur groups nodeId now q) reads sampled) := by
  rintro p ⟨hp, rfl⟩
  unfold legacyAgenda
  rcases h : sur.walk with _ | walk
  · have hnone : (sur.traced groups sampler).walk = none := congrArg (Option.map Traced.lift) h
    rw [reportLegacy_of_none hnone]
    exact hp.nothing
  · have hsome : (sur.traced groups sampler).walk = some (Traced.lift walk) :=
      congrArg (Option.map Traced.lift) h
    rw [reportLegacy_of_some hsome]
    have hw : Reached sur
        (a ++ (walk (sur.note .reportingLegacy p.state.base)).1.agenda groups nodeId now p.rates)
        reads sampled (walkFrom (sur.traced groups sampler) nodeId now (Traced.lift walk) p).1
        (walkFrom (sur.traced groups sampler) nodeId now (Traced.lift walk) p).2 :=
      walk_reached p.rates _ _ ⟨⟨hp.carried, hp.reads, hp.sampled⟩, rfl⟩
    revert hw
    -- what follows the walk counts its records, and leaves the trace alone
    rcases walkFrom (sur.traced groups sampler) nodeId now (Traced.lift walk) p with
      ⟨(fault | _) | _, q⟩
    · exact fun hw => ⟨hw.carried, hw.reads, hw.sampled⟩
    · exact fun hw => hw
    · exact fun hw => ⟨hw.carried, hw.reads, hw.sampled⟩

/-! #### The registered metrics -/

/-- Reading a metric adds the reading, and a gauge that panics cuts the pass short. -/
theorem read_reached (nodeId : Int32) (now : Int64) (handle : H) :
    Ensures (Reached sur a reads sampled (.ok ()))
      (ask ((sur.traced groups sampler).read handle))
      (fun o p => match o with
        | .ok value => Reached sur a (reads ++ [(handle, .value value)]) sampled (.ok ()) p
        | .error c => ∃ message,
          Reached sur (a ++ readingAgenda groups nodeId now sur.idOf (handle, .panicked message))
            (reads ++ [(handle, .panicked message)]) sampled (.error c) p) := by
  rintro p ⟨hc, rfl, rfl⟩
  unfold ask
  rw [Surroundings.traced_read]
  rcases sur.read handle p.state.base with ⟨value | message, s⟩
  · exact ⟨hc, rfl, rfl⟩
  · -- the reading is a panic, and this is where the agenda is left off
    exact ⟨message, hc.cut .panic, rfl, rfl⟩

/-- A registered metric is read, and the agenda of its reading carried out. -/
theorem reportHandle_reached (handle : H) :
    Ensures (Reached sur a reads sampled (.ok ()))
      (reportHandle (sur.traced groups sampler) nodeId now handle)
      (fun o p => ∃ reply,
        Reached sur (a ++ readingAgenda groups nodeId now sur.idOf (handle, reply))
          (reads ++ [(handle, reply)]) sampled o p) := by
  refine say_then ?_
  refine Ensures.bind (read_reached nodeId now handle) (fun value => ?_)
    fun _ _ ⟨message, h⟩ => ⟨.panicked message, h⟩
  intro p hp
  refine ⟨.value value, ?_⟩
  -- the usual conversion answers at once, and leaves the trace alone
  exact publish?_reached (f := fun q => { q with published := q.published + 1 })
    (Conversion.sample? groups (sur.idOf handle) value now nodeId) (fun _ => rfl) p hp

/-- What a traced pass leaves that has carried out `before` and has then had to report the metrics
`handles`.  It has read the first of them, or all if nothing has cut it short; and the agenda that
it has carried out is that of all readings that begin with those made. -/
def ReadOff (sur : Surroundings S H) (groups : List String) (nodeId : Int32) (now : Int64)
    (before : Agenda) (reads : List (H × Reply Float)) (sampled : List (Reply (Option Float)))
    (handles : List H) (outcome : Except Cut Unit) (p : PassState (Traced S H)) : Prop :=
  ∃ replies, p.state.reads = reads ++ replies ∧ p.state.sampled = sampled ∧
    replies.map Prod.fst <+: handles ∧
    (outcome = .ok () → replies.map Prod.fst = handles) ∧
    ∀ plan, plan.map Prod.fst = handles → replies <+: plan →
      Carried sur.channel.record
        (before ++ plan.flatMap (readingAgenda groups nodeId now sur.idOf))
        p.state.publications outcome

/-- Readings of metrics that begin with one of the first begin with that one. -/
theorem plan_cons {handle : H} {rest : List H} {reply : Reply Float}
    {replies plan : List (H × Reply Float)} (hplan : plan.map Prod.fst = handle :: rest)
    (hread : (handle, reply) :: replies <+: plan) :
    ∃ plan', plan = (handle, reply) :: plan' ∧ plan'.map Prod.fst = rest ∧
      replies <+: plan' := by
  rcases plan with _ | ⟨first, plan'⟩
  · cases hplan
  · obtain ⟨rfl, hrest⟩ := List.cons_prefix_cons.mp hread
    exact ⟨plan', rfl, (List.cons.inj hplan).2, hrest⟩

/-- Registered metrics are reported one after the other. -/
theorem reportHandles_reached (handles : List H) :
    Ensures (Reached sur a reads sampled (.ok ()))
      (reportHandles (sur.traced groups sampler) nodeId now handles)
      (ReadOff sur groups nodeId now a reads sampled handles) := by
  -- what is read of the first metric goes to the readings so far, and its agenda to the agenda
  induction handles generalizing a reads with
  | nil =>
    rintro p ⟨hc, hr, hs⟩
    refine ⟨[], hr.trans (List.append_nil reads).symm, hs, List.nil_prefix, fun _ => rfl, ?_⟩
    intro plan hplan _
    rw [List.map_eq_nil_iff.mp hplan]
    show Carried _ (a ++ []) _ _
    rwa [List.append_nil]
  | cons handle rest ih =>
    refine Ensures.bind (reportHandle_reached handle) (fun _ => ?_) ?_
    · rintro p ⟨reply, hp⟩
      obtain ⟨replies, hr, hs, hpre, hall, hcarried⟩ := ih p hp
      refine ⟨(handle, reply) :: replies, by rw [hr, List.append_assoc]; rfl, hs, ?_, ?_, ?_⟩
      · exact List.cons_prefix_cons.mpr ⟨rfl, hpre⟩
      · exact fun ho => congrArg (handle :: ·) (hall ho)
      · intro plan hplan hread
        obtain ⟨plan', rfl, hplan', hread'⟩ := plan_cons hplan hread
        rw [List.flatMap_cons, ← List.append_assoc]
        exact hcarried plan' hplan' hread'
    · -- cut short at this metric: no other is read
      rintro c p ⟨reply, hc, hr, hs⟩
      refine ⟨[(handle, reply)], hr, hs, ?_, nofun, ?_⟩
      · exact List.cons_prefix_cons.mpr ⟨rfl, List.nil_prefix⟩
      · intro plan hplan hread
        obtain ⟨plan', rfl, -, -⟩ := plan_cons hplan hread
        rw [List.flatMap_cons, ← List.append_assoc]
        exact hc.more _

/-- The metrics that are reported are those that are registered when the walk is over. -/
theorem reportRegistered_reached (handles : List H) :
    Ensures
      (fun p => Reached sur a reads sampled (.ok ()) p ∧
        sur.registered p.state.base = handles)
      (reportRegistered (sur.traced groups sampler) nodeId now)
      (ReadOff sur groups nodeId now a reads sampled handles) := by
  rintro p ⟨hp, rfl⟩
  have h : Ensures (Reached sur a reads sampled (.ok ()))
      (say (sur.traced groups sampler)
          (.reportingRegistered (sur.registered p.state.base).length) >>= fun _ =>
        reportHandles (sur.traced groups sampler) nodeId now (sur.registered p.state.base)
          >>= fun _ => say (sur.traced groups sampler) .registeredReported)
      (ReadOff sur groups nodeId now a reads sampled (sur.registered p.state.base)) := by
    refine say_then ?_
    exact Ensures.bind (reportHandles_reached _) (fun _ _ h => h) fun _ _ h => h
  exact h p hp

/-! #### The host -/

/-- The sampler of the host is asked, and the agenda of its reading carried out. -/
theorem reportHost_reached (nodeId : Int32) (now : Int64) :
    Ensures (Reached sur a reads [] (.ok ()))
      (reportHost (sur.traced groups sampler) nodeId now)
      (fun o p => ∃ reply,
        Reached sur (a ++ hostAgenda nodeId now reply) reads [reply] o p) := by
  refine say_then ?_
  rintro p ⟨hc, hr, hs⟩
  refine ⟨(sampler p.state.base).1, ?_⟩
  have hsampled : ∀ reply, p.state.sampled ++ [reply] = [reply] :=
    fun reply => congrArg (· ++ [reply]) hs
  rw [Act.bind_apply]
  unfold ask
  rw [Surroundings.traced_host]
  unfold hostAgenda
  rcases sampler p.state.base with ⟨utilization | message, s⟩
  · dsimp only
    rcases Conversion.hostSample utilization now nodeId with fault | sample
    · -- no utilization is available
      exact ⟨hc.cut _, hr, hsampled _⟩
    · exact publish?_reached (f := fun q => { q with published := q.published + 1 }) (some sample)
        (fun _ => rfl) _ ⟨hc, hr, hsampled _⟩
  · exact ⟨hc.cut .panic, hr, hsampled _⟩

/-! #### The pass -/

/-- What a traced pass leaves that has carried out `before` and has then had to report the metrics
`handles` and the host. -/
structure Performed (sur : Surroundings S H) (groups : List String) (nodeId : Int32) (now : Int64)
    (before : Agenda) (handles : List H) (outcome : Except Cut Unit) (t : Traced S H) :
    Prop where
  reads : t.reads.map Prod.fst <+: handles
  sampled : t.sampled.length ≤ 1
  all : outcome = .ok () → t.reads.map Prod.fst = handles ∧ t.sampled.length = 1
  carried : ∀ plan host, plan.map Prod.fst = handles → t.reads <+: plan → t.sampled <+: [host] →
    Carried sur.channel.record
      (before ++ plan.flatMap (readingAgenda groups nodeId now sur.idOf) ++
        hostAgenda nodeId now host)
      t.publications outcome

theorem reportLive_performed (handles : List H) :
    Ensures
      (fun p => Reached sur a [] [] (.ok ()) p ∧
        sur.registered p.state.base = handles)
      (reportLive (sur.traced groups sampler) nodeId now)
      (fun o p => Performed sur groups nodeId now a handles o p.state) := by
  unfold reportLive
  refine Ensures.bind (reportRegistered_reached handles) (fun _ => ?_) ?_
  · -- all metrics have been read, so there is only one plan
    rintro p ⟨replies, hr, hs, -, hall, hcarried⟩
    rw [List.nil_append] at hr
    have hreplies : replies.map Prod.fst = handles := hall rfl
    obtain ⟨reply, hc, hr', hs'⟩ := reportHost_reached nodeId now p
      ⟨hcarried replies hreplies List.prefix_rfl, hr, hs⟩
    have hreads := (congrArg (List.map Prod.fst) hr').trans hreplies
    have hone := congrArg List.length hs'
    refine ⟨hreads ▸ List.prefix_rfl, Nat.le_of_eq hone, fun _ => ⟨hreads, hone⟩, ?_⟩
    intro plan host hplan hread hsampled
    rw [hr'] at hread
    rw [hs'] at hsampled
    have hlength : replies.length = plan.length := by
      rw [← List.length_map Prod.fst, hreplies, ← hplan, List.length_map]
    rw [← hread.eq_of_length hlength, ← (List.cons_prefix_cons.mp hsampled).1]
    exact hc
  · -- cut short before the host: the sampler is not asked
    rintro c p ⟨replies, hr, hs, hpre, -, hcarried⟩
    rw [List.nil_append] at hr
    refine ⟨by rwa [hr], by rw [hs]; exact Nat.zero_le 1, nofun, ?_⟩
    intro plan host hplan hread _
    rw [hr] at hread
    exact (hcarried plan hplan hread).more _

/-- A traced pass carries out the agenda of the walk, of the metrics that are registered when the
walk is over, and of the host. -/
theorem run_performed (nodeId : Int32) (now : Int64)
    (hconv : sur.converter = .standard groups sampler) (q : PassState S) :
    Ensures
      (fun p => Reached sur [] [] [] (.ok ()) p ∧ p.through Traced.base = q)
      (run (sur.traced groups sampler) nodeId now)
      (fun o p => Performed sur groups nodeId now (legacyAgenda sur groups nodeId now q)
        (sur.registered (reportLegacy sur nodeId now q).2.state) o p.state) := by
  rintro p ⟨hp, rfl⟩
  have hbase : reportLegacy sur nodeId now (p.through Traced.base) = _ :=
    reportLegacy_seen (seen_untraced hconv) p
  have hlegacy : Reached sur _ [] []
      (reportLegacy (sur.traced groups sampler) nodeId now p).1 _ :=
    reportLegacy_reached (p.through Traced.base) p ⟨hp, rfl⟩
  rw [List.nil_append] at hlegacy
  rw [run_eq, Act.bind_apply, hbase]
  revert hlegacy
  rcases reportLegacy (sur.traced groups sampler) nodeId now p with ⟨c | _, p'⟩
  · -- cut short in the walk: nothing is read
    rintro ⟨hc, hr, hs⟩
    show Performed sur groups nodeId now _ (sur.registered p'.state.base) (.error c) p'.state
    refine ⟨by rw [hr]; exact List.nil_prefix, by rw [hs]; exact Nat.zero_le 1, nofun, ?_⟩
    intro plan host _ _ _
    rw [List.append_assoc]
    exact hc.more _
  · exact fun hlegacy => reportLive_performed _ p' ⟨hlegacy, rfl⟩

end Stages

end Pass

/-! ### Ticks -/

namespace Tick

/-- What the traced pass works on, before anything is asked. -/
def traceStart (sur : Surroundings S H) (t : Tick S) : PassState (Traced S H) :=
  { state := { base := (t.start sur).state }, rates := t.rates }

/-- What the collaborators answer in the pass. -/
def trace (setup : LoopSetup) (sur : Surroundings S H) (groups : List String)
    (sampler : S → Reply (Option Float) × S) (t : Tick S) : Traced S H :=
  (Pass.run (sur.traced groups sampler) setup.nodeId t.nowMs (t.traceStart sur)).2.state

/-- The metrics that are registered when the walk is over. -/
def snapshot (setup : LoopSetup) (sur : Surroundings S H) (t : Tick S) : List H :=
  sur.registered (Pass.reportLegacy sur setup.nodeId t.nowMs (t.start sur)).2.state

/-- The agenda of the pass, given what the gauges and the sampler of the host read. -/
def agenda (setup : LoopSetup) (sur : Surroundings S H) (groups : List String) (t : Tick S)
    (plan : List (H × Reply Float)) (host : Reply (Option Float)) : Agenda :=
  Pass.legacyAgenda sur groups setup.nodeId t.nowMs (t.start sur) ++
    plan.flatMap (readingAgenda groups setup.nodeId t.nowMs sur.idOf) ++
    hostAgenda setup.nodeId t.nowMs host

variable {setup : LoopSetup} {sur : Surroundings S H} {groups : List String}
variable {sampler : S → Reply (Option Float) × S}

/-- A sample in the agenda of a pass is what the usual conversion makes of an observed value, or the
host's. -/
theorem converted_of_mem_agenda {t : Tick S} {plan : List (H × Reply Float)}
    {host : Reply (Option Float)} {s : Sample}
    (h : .ok s ∈ t.agenda setup sur groups plan host) :
    s.Converted groups setup.nodeId t.nowMs ∨
      host = .value (some s.value) ∧
        Conversion.hostSample (some s.value) t.nowMs setup.nodeId = .ok s := by
  rcases List.mem_append.mp h with h | h
  · refine .inl ?_
    rcases List.mem_append.mp h with h | h
    · unfold Pass.legacyAgenda at h
      revert h
      rcases sur.walk with _ | walk
      · exact nofun
      · exact converted_of_mem_walk
    · obtain ⟨reading, -, hr⟩ := List.mem_flatMap.mp h
      exact converted_of_mem_readingAgenda hr
  · exact .inr (of_mem_hostAgenda h)

/-- Without the trace, the traced pass is the pass. -/
theorem run_traced (setup : LoopSetup) (hconv : sur.converter = .standard groups sampler)
    (t : Tick S) :
    Pass.run sur setup.nodeId t.nowMs (t.start sur) =
      ((Pass.run (sur.traced groups sampler) setup.nodeId t.nowMs (t.traceStart sur)).1,
        (Pass.run (sur.traced groups sampler) setup.nodeId t.nowMs (t.traceStart sur)).2.through
          Traced.base) :=
  Pass.run_seen (Pass.seen_untraced hconv) (t.traceStart sur)

/-- The accepted records are those of which the trace says so. -/
theorem accepted_traced (hconv : sur.converter = .standard groups sampler) (t : Tick S) :
    t.accepted setup sur =
      (t.trace setup sur groups sampler).publications.filterMap Publication.accepted? := by
  have h : Pass.run sur.audited setup.nodeId t.nowMs (t.auditStart sur) = _ :=
    Pass.run_seen (Pass.seen_traced hconv) (t.traceStart sur)
  unfold accepted
  rw [h]
  rfl

end Tick

end MetricFeed
