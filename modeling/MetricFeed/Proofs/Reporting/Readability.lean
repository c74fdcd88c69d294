/-
MetricFeed/Proofs/Reporting/Readability.lean

Which of the records that a collection pass hands to the producer can be read.  The channel writes
samples as documents, and the conversion is the usual one, which makes no sample of a value that is
not finite, but for the host's: the host's utilization is taken as the sampler reads it.

The payload of a record is known from the serializer alone, whatever sample it is of
(`Pass.run_writes`).  That values are finite is read off the agenda of the pass
(`Tick.sent_finite_or_host`), and that the host's sample is handed over once the sampler has been read,
off the last stage (`Pass.run_hands`).

Main result (`Tick.handed_readable`): each record can be read back exactly if its value is finite;
and all of them are exactly if the sampler of the host reads nothing but finite values.
-/
import MetricFeed.Proofs.Metric.RoundTrip
import MetricFeed.Proofs.Reporting.Acceptance

namespace MetricFeed

open Act (Ensures)
open Agenda (Carried Stops)

variable {S H : Type}

/-- The channel writes samples as documents. -/
def Channel.WritesDocuments (c : Channel S) : Prop :=
  ∀ sample s, (c.serialize sample s).1 = .value (.ok sample.encode)

/-! ### What is sent -/

/-- What is sent is the document of the sample. -/
def Publication.Written (c : Channel S) : Publication → Prop
  | .serialized _ _ => True
  | .sent record sample _ => record = c.record sample sample.encode

namespace Pass

variable {sur : Surroundings S H} {groups : List String} {sampler : S → Reply (Option Float) × S}

/-- Publishing a sample sends its document. -/
theorem publish_traced_written (hdoc : sur.channel.WritesDocuments) (sample : Sample)
    (t : Traced S H) :
    ∃ reply, ((sur.traced groups sampler).channel.publish sample t).2.publications =
      t.publications ++
        [.serialized sample (.value (.ok sample.encode)),
         .sent (sur.channel.record sample sample.encode) sample reply] := by
  unfold Channel.publish
  rw [Surroundings.traced_serialize, hdoc sample t.base]
  dsimp only
  rw [Surroundings.traced_send]
  exact ⟨_, List.append_assoc _ _ _⟩

/-- All that a pass sends are documents. -/
theorem run_writes (hdoc : sur.channel.WritesDocuments) (nodeId : Int32) (now : Int64)
    {p : PassState (Traced S H)}
    (hp : ∀ publication ∈ p.state.publications, publication.Written sur.channel) :
    ∀ publication ∈ (run (sur.traced groups sampler) nodeId now p).2.state.publications,
      publication.Written sur.channel := by
  refine run_within (R := fun t t' =>
    (∀ publication ∈ t.publications, publication.Written sur.channel) →
      ∀ publication ∈ t'.publications, publication.Written sur.channel) ?_ p hp
  refine ⟨fun _ h => h, fun h h' hs => h' (h hs), fun _ _ h => h, ?_, fun _ _ h => h,
    fun _ _ _ _ _ h => h, ?_, ?_⟩
  · rintro _ hwalk t h
    obtain ⟨walk, -, rfl⟩ := Option.map_eq_some_iff.mp hwalk
    exact h
  · intro now nodeId t h
    rw [Surroundings.traced_host]
    exact h
  · -- only publishing adds to what is sent
    intro sample t h
    obtain ⟨reply, hpublications⟩ :
        ∃ reply, ((sur.traced groups sampler).channel.publish sample t).2.publications = _ :=
      publish_traced_written hdoc sample t
    rw [hpublications]
    refine List.forall_mem_append.mpr ⟨h, ?_⟩
    exact List.forall_mem_cons.mpr ⟨trivial, List.forall_mem_singleton.mpr rfl⟩

/-! ### The host's sample -/

/-- Of each utilization that has been sampled the sample has been sent. -/
def HostSent (nodeId : Int32) (now : Int64) (t : Traced S H) : Prop :=
  ∀ value, .value (some value) ∈ t.sampled →
    ∃ record sample reply, Conversion.hostSample (some value) now nodeId = .ok sample ∧
      .sent record sample reply ∈ t.publications

theorem hostSent_of_nil {nodeId : Int32} {now : Int64} {t : Traced S H} (h : t.sampled = []) :
    HostSent nodeId now t := by
  intro value hvalue
  rw [h] at hvalue
  cases hvalue

/-- Publishing leaves the readings alone. -/
theorem publish_traced_sampled (sample : Sample) (t : Traced S H) :
    ((sur.traced groups sampler).channel.publish sample t).2.sampled = t.sampled := by
  unfold Channel.publish
  rw [Surroundings.traced_serialize]
  rcases sur.channel.serialize sample t.base with ⟨(fault | payload) | message, s⟩ <;> rfl

/-- What is known when the sampler of the host has been asked: what it has read has a sample. -/
theorem ask_host (nodeId : Int32) (now : Int64) :
    Ensures (fun p => p.state.sampled = [])
      (ask ((sur.traced groups sampler).converter.host now nodeId))
      (fun o p => match o with
        | .ok (.ok sample) => ∃ value, p.state.sampled = [.value (some value)] ∧
          Conversion.hostSample (some value) now nodeId = .ok sample
        | .ok (.error _) | .error _ => ∀ value, .value (some value) ∉ p.state.sampled) := by
  intro p hp
  unfold ask
  rw [Surroundings.traced_host]
  have hsampled : ∀ reply, p.state.sampled ++ [reply] = [reply] :=
    fun reply => congrArg (· ++ [reply]) hp
  rcases sampler p.state.base with ⟨(_ | value) | message, s⟩
  · -- no utilization is available
    intro value hvalue
    have hmem : .value (some value) ∈ p.state.sampled ++ [.value none] := hvalue
    rw [hsampled] at hmem
    cases List.mem_singleton.mp hmem
  · exact ⟨value, hsampled _, rfl⟩
  · intro value hvalue
    have hmem : .value (some value) ∈ p.state.sampled ++ [.panicked message] := hvalue
    rw [hsampled] at hmem
    cases List.mem_singleton.mp hmem

/-- The host's utilization is sent once it has been sampled. -/
theorem reportHost_hands (hdoc : sur.channel.WritesDocuments) (nodeId : Int32) (now : Int64) :
    Ensures (fun p => p.state.sampled = [])
      (reportHost (sur.traced groups sampler) nodeId now)
      (fun _ p => HostSent nodeId now p.state) := by
  refine Ensures.bind (R := fun _ p => p.state.sampled = []) (fun p hp => hp) (fun _ => ?_)
    fun _ p hp => hostSent_of_nil hp
  refine Ensures.bind (ask_host nodeId now) ?_ fun _ p hp value hvalue => absurd hvalue (hp value)
  rintro (fault | sample)
  · exact fun p hp value hvalue => absurd hvalue (hp value)
  · rintro p ⟨value, hsampled, hsample⟩
    -- whether the record is accepted does not matter: it has been sent
    have hsent : HostSent nodeId now
        ((sur.traced groups sampler).channel.publish sample p.state).2 := by
      intro value' hvalue'
      rw [publish_traced_sampled, hsampled] at hvalue'
      cases List.mem_singleton.mp hvalue'
      obtain ⟨reply, hpublications⟩ :
          ∃ reply, ((sur.traced groups sampler).channel.publish sample p.state).2.publications =
            _ := publish_traced_written hdoc sample p.state
      refine ⟨sur.channel.record sample sample.encode, sample, reply, hsample, ?_⟩
      rw [hpublications]
      exact List.mem_append_right _ (List.mem_cons_of_mem _ List.mem_cons_self)
    show HostSent nodeId now
      ((publish (sur.traced groups sampler) sample >>= fun _ => countPublished 1) p).2.state
    rw [Act.bind_apply, publish_apply]
    rcases ((sur.traced groups sampler).channel.publish sample p.state).1.outcome with c | _
    · exact hsent
    · exact hsent

/-- A pass sends the host's utilization once it has sampled it. -/
theorem run_hands (hdoc : sur.channel.WritesDocuments) (nodeId : Int32) (now : Int64)
    (q : PassState S) :
    Ensures
      (fun p => Reached sur [] [] [] (.ok ()) p ∧ p.through Traced.base = q)
      (run (sur.traced groups sampler) nodeId now)
      (fun _ p => HostSent nodeId now p.state) := by
  have hlegacy : Ensures
      (fun p => Reached sur [] [] [] (.ok ()) p ∧ p.through Traced.base = q)
      (reportLegacy (sur.traced groups sampler) nodeId now)
      (Reached sur ([] ++ legacyAgenda sur groups nodeId now q) [] []) := reportLegacy_reached q
  rw [run_eq]
  refine Ensures.bind hlegacy (fun _ p hp => ?_) fun _ p hp => hostSent_of_nil hp.sampled
  have hregistered : Ensures
      (fun p' => Reached sur ([] ++ legacyAgenda sur groups nodeId now q) [] [] (.ok ()) p' ∧
        sur.registered p'.state.base = sur.registered p.state.base)
      (reportRegistered (sur.traced groups sampler) nodeId now)
      (ReadOff sur groups nodeId now ([] ++ legacyAgenda sur groups nodeId now q) [] []
        (sur.registered p.state.base)) := reportRegistered_reached _
  refine Ensures.bind (Q := fun _ p => HostSent nodeId now p.state) hregistered (fun _ => ?_) ?_ p
    ⟨hp, rfl⟩
  · rintro p' ⟨replies, -, hsampled, -⟩
    exact reportHost_hands hdoc nodeId now p' hsampled
  · rintro c p' ⟨replies, -, hsampled, -⟩
    exact hostSent_of_nil hsampled

end Pass

/-! ### Ticks -/

/-- What is sent is a sample of the agenda that has been carried out. -/
theorem Agenda.Carried.sent_mem {record : Sample → String → Record} {a : Agenda}
    {trace : List Publication} {o : Except Cut Unit} (h : Carried record a trace o) {r : Record}
    {sample : Sample} {reply : Reply (Except PublishFault Unit)}
    (hsent : .sent r sample reply ∈ trace) : .ok sample ∈ a := by
  obtain ⟨done, rest, tail, rfl, rfl, hs⟩ := h
  rcases List.mem_append.mp hsent with hdone | htail
  · obtain ⟨⟨sample', payload⟩, hd, hp⟩ := List.mem_flatMap.mp hdone
    rcases List.mem_cons.mp hp with hp | hp
    · cases hp
    · cases List.mem_singleton.mp hp
      exact List.mem_append_left _
        (List.mem_map_of_mem (f := fun d : Sample × String => (.ok d.1 : Except Cut Sample)) hd)
  · refine List.mem_append_right _ ?_
    cases hs with
    | ended => cases htail
    | failed c rest => cases htail
    | unserialized sample rest h => cases List.mem_singleton.mp htail
    | refused sample payload rest h =>
      rcases List.mem_cons.mp htail with hp | hp
      · cases hp
      · cases List.mem_singleton.mp hp
        exact List.mem_cons_self

/-- What has been read begins a plan of all readings. -/
theorem exists_plan {reads : List (H × Reply Float)} {handles : List H}
    (h : reads.map Prod.fst <+: handles) :
    ∃ plan, plan.map Prod.fst = handles ∧ reads <+: plan := by
  obtain ⟨rest, rfl⟩ := h
  refine ⟨reads ++ rest.map (·, .panicked ""), ?_, List.prefix_append _ _⟩
  rw [List.map_append, List.map_map]
  exact congrArg _ (List.map_id rest)

namespace Tick

variable {setup : LoopSetup} {sur : Surroundings S H} {groups : List String}
variable {sampler : S → Reply (Option Float) × S}

/-- What a pass sends is finite, but for what the sampler of the host has read. -/
theorem sent_finite_or_host (hconv : sur.converter = .standard groups sampler) (t : Tick S)
    {record : Record} {sample : Sample} {reply : Reply (Except PublishFault Unit)}
    (hsent : .sent record sample reply ∈ (t.trace setup sur groups sampler).publications) :
    sample.value.isFinite = true ∨
      (t.trace setup sur groups sampler).sampled = [.value (some sample.value)] ∧
        Conversion.hostSample (some sample.value) t.nowMs setup.nodeId = .ok sample := by
  have hp := Pass.run_performed setup.nodeId t.nowMs hconv (t.start sur) (t.traceStart sur)
    ⟨⟨.nil, rfl, rfl⟩, rfl⟩
  obtain ⟨plan, hplan, hread⟩ := exists_plan hp.reads
  have hlength : (t.trace setup sur groups sampler).sampled.length ≤ 1 := hp.sampled
  rcases hsampled : (t.trace setup sur groups sampler).sampled with _ | ⟨host, rest⟩
  · -- the sampler has not been asked, so it may as well have had nothing to read
    have hcarried := hp.carried plan (.value none) hplan hread (hsampled.symm ▸ List.nil_prefix)
    rcases converted_of_mem_agenda (hcarried.sent_mem hsent) with hs | ⟨hhost, -⟩
    · exact .inl hs.finite
    · cases hhost
  · rw [hsampled, List.length_cons] at hlength
    have hrest : rest = [] := List.eq_nil_of_length_eq_zero (by omega)
    have hone : (t.trace setup sur groups sampler).sampled <+: [host] :=
      hsampled.trans (congrArg (host :: ·) hrest) ▸ List.prefix_rfl
    have hcarried := hp.carried plan host hplan hread hone
    rcases converted_of_mem_agenda (hcarried.sent_mem hsent) with hs | ⟨hhost, hs⟩
    · exact .inl hs.finite
    · exact .inr ⟨by rw [hhost, hrest], hs⟩

/-- **Which records of a pass can be read.**  The trace is that of the pass itself.  Each record that
is handed to the producer is of a sample and bears the document of it.  If the sample's value is
finite, and its literal is read as the same float, then this sample is read from the record.  If it
is not finite, nothing is read; and then the sample is that of the host, with the value that its
sampler has read.  And so all records have finite values exactly if the sampler reads no other. -/
theorem handed_readable (setup : LoopSetup) (hconv : sur.converter = .standard groups sampler)
    (hdoc : sur.channel.WritesDocuments) (t : Tick S) :
    (t.trace setup sur groups sampler).base = (t.final setup sur).state ∧
    t.accepted setup sur =
      (t.trace setup sur groups sampler).publications.filterMap Publication.accepted? ∧
    (∀ record sample reply,
      .sent record sample reply ∈ (t.trace setup sur groups sampler).publications →
      record = sur.channel.record sample sample.encode ∧
      (sample.value.isFinite = true → sample.ReadsBack →
        Sample.decode? record.payload = some sample) ∧
      (sample.value.isFinite = false →
        Sample.decode? record.payload = none ∧
        (t.trace setup sur groups sampler).sampled = [.value (some sample.value)] ∧
        Conversion.hostSample (some sample.value) t.nowMs setup.nodeId = .ok sample)) ∧
    ((∀ record sample reply,
        .sent record sample reply ∈ (t.trace setup sur groups sampler).publications →
        sample.value.isFinite = true) ↔
      ∀ value, .value (some value) ∈ (t.trace setup sur groups sampler).sampled →
        value.isFinite = true) := by
  refine ⟨(congrArg (fun r => r.2.state) (run_traced setup hconv t)).symm,
    accepted_traced hconv t, ?_, ?_, ?_⟩
  · intro record sample reply hsent
    have hwritten : (Publication.sent record sample reply).Written sur.channel :=
      Pass.run_writes (p := t.traceStart sur) hdoc setup.nodeId t.nowMs
        (fun _ h => absurd h List.not_mem_nil) _ hsent
    have hpayload : record.payload = sample.encode := congrArg Record.payload hwritten
    refine ⟨hwritten, fun hfinite hback => ?_, fun hinfinite => ?_⟩
    · rw [hpayload]
      exact Sample.decode?_encode hfinite hback
    · rw [hpayload]
      refine ⟨Sample.decode?_encode_of_not_isFinite hinfinite, ?_⟩
      exact (sent_finite_or_host hconv t hsent).resolve_left (Bool.eq_false_iff.mp hinfinite)
  · intro hfinite value hvalue
    have hhost : Pass.HostSent setup.nodeId t.nowMs (t.trace setup sur groups sampler) :=
      Pass.run_hands hdoc setup.nodeId t.nowMs (t.start sur) (t.traceStart sur)
        ⟨⟨.nil, rfl, rfl⟩, rfl⟩
    obtain ⟨record, sample, reply, hsample, hsent⟩ := hhost value hvalue
    have hsampled := hfinite record sample reply hsent
    cases hsample
    exact hsampled
  · intro hfinite record sample reply hsent
    rcases sent_finite_or_host hconv t hsent with h | ⟨hsampled, -⟩
    · exact h
    · exact hfinite _ (hsampled ▸ List.mem_singleton_self _)

end Tick

/-- Surroundings that write documents, whose host has always the same utilization. -/
def Surroundings.utilized (value : Float) : Surroundings Unit Empty :=
  { Surroundings.quiet Unit with
    converter := .standard [] fun s => (.value (some value), s)
    channel :=
      { (Surroundings.quiet Unit).channel with
        serialize := fun sample s => (.value (.ok sample.encode), s) } }

/-- What is sent of such a host. -/
theorem publications_utilized (value : Float) (t : Tick Unit) :
    (t.trace .everyMilli (.utilized value) [] fun s => (.value (some value), s)).publications =
      let sample : Sample := ⟨.broker, 0, t.nowMs, Conversion.hostType, value⟩
      [.serialized sample (.value (.ok sample.encode)),
       .sent ⟨"metrics", sample.key, t.nowMs, sample.encode⟩ sample (.value (.ok ()))] := rfl

/-- The record of a host that is idle is read. -/
theorem readable_of_idle :
    ∃ record sample reply,
      .sent record sample reply ∈
        (Tick.trace .everyMilli (.utilized 0) [] (fun s => (.value (some 0), s))
          ⟨7, {}, ()⟩).publications ∧
      Sample.decode? record.payload = some sample := by
  have hconv : (Surroundings.utilized 0).converter =
      .standard [] fun s => (.value (some 0), s) := rfl
  obtain ⟨-, -, hread, -⟩ := Tick.handed_readable .everyMilli hconv (fun _ _ => rfl) ⟨7, {}, ()⟩
  rw [publications_utilized]
  refine ⟨_, ⟨.broker, 0, 7, Conversion.hostType, 0⟩, _,
    List.mem_cons_of_mem _ (List.mem_singleton_self _), ?_⟩
  rw [publications_utilized] at hread
  exact (hread _ _ _ (List.mem_cons_of_mem _ (List.mem_singleton_self _))).2.1 rfl rfl

/-- Of a host whose utilization is no number a record is accepted that cannot be read. -/
theorem unreadable_of_nan :
    ∃ record sample,
      .sent record sample (.value (.ok ())) ∈
        (Tick.trace .everyMilli (.utilized (0 / 0)) [] (fun s => (.value (some (0 / 0)), s))
          ⟨7, {}, ()⟩).publications ∧
      sample.value.isFinite = false ∧ Sample.decode? record.payload = none := by
  have hnan : (0 / 0 : Float).isFinite = false := by decide
  rw [publications_utilized]
  exact ⟨_, _, List.mem_cons_of_mem _ (List.mem_singleton_self _), hnan,
    Sample.decode?_encode_of_not_isFinite hnan⟩

end MetricFeed
