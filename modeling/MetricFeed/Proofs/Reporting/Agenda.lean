/-
MetricFeed/Proofs/Reporting/Agenda.lean

Agendas of collection passes.  An agenda lists what a pass sets out to publish: samples, in order,
and among them the points at which a source of samples fails.  First come the samples of the legacy
registry's metrics and the end of the walk, then the samples of the registered metrics, then the
sample of the host.

An agenda is carried out from the front (`Agenda.Carried`).  Of the samples that are done the record
has been accepted; and where the agenda is left off (`Agenda.Stops`), nothing has come of it but, at
most, the failed attempt to publish its next sample.  Agendas are carried out one after the other:
one that is done can be added to (`Carried.stops`, `Carried.sent`), and of what is added to one that
has been left off nothing comes (`Carried.more`).
-/
import MetricFeed.Proofs.Reporting.Trace

namespace MetricFeed

variable {S H : Type}

/-! ### Agendas -/

/-- What is to be published, in order: samples, and the points at which a source of them fails. -/
abbrev Agenda := List (Except Cut Sample)

section Sources

variable (groups : List String) (nodeId : Int32) (now : Int64)

/-- The sample of a legacy metric, if there is a value to report and the value has a sample. -/
def legacySample? (r : Rates) (m : LegacyMetric) : Option Sample :=
  (r.observe m now).2.bind fun value => Conversion.sample? groups m.id value now nodeId

/-- The samples of legacy metrics that are visited one after the other. -/
def legacySamples : Rates → List LegacyMetric → List Sample
  | _, [] => []
  | r, m :: rest =>
    (legacySample? groups nodeId now r m).toList ++ legacySamples (r.observe m now).1 rest

/-- The end of a walk, as an item of an agenda if it is a failure. -/
def WalkEnding.agenda : WalkEnding → Agenda
  | .complete => []
  | .failed reason => [.error (.fault (.registry reason))]
  | .panicked => [.error .panic]

def Walk.agenda (r : Rates) (w : Walk) : Agenda :=
  (legacySamples groups nodeId now r w.metrics).map .ok ++ w.ending.agenda

/-- The sample of a reading of a registered metric, if the value has one. -/
def readingAgenda (idOf : H → MetricId) : H × Reply Float → Agenda
  | (handle, .value value) =>
    (Conversion.sample? groups (idOf handle) value now nodeId).toList.map .ok
  | (_, .panicked _) => [.error .panic]

/-- The sample of a reading of the host's utilization, which must be available. -/
def hostAgenda : Reply (Option Float) → Agenda
  | .value utilization => [(Conversion.hostSample utilization now nodeId).mapError .fault]
  | .panicked _ => [.error .panic]

end Sources

/-! ### Carrying out an agenda -/

/-- What is traced of a sample that is published as the given payload. -/
def publications (record : Sample → String → Record) : Sample × String → List Publication
  | (sample, payload) =>
    [.serialized sample (.value (.ok payload)),
     .sent (record sample payload) sample (.value (.ok ()))]

namespace Agenda

/-- How an agenda is left off: it is at its end, a source of samples fails at its first item, or
its first sample cannot be serialized or is not accepted. -/
inductive Stops (record : Sample → String → Record) :
    Agenda → List Publication → Except Cut Unit → Prop
  | ended : Stops record [] [] (.ok ())
  | failed (c : Cut) (rest : Agenda) : Stops record (.error c :: rest) [] (.error c)
  | unserialized (sample : Sample) (rest : Agenda) {reply : Reply (Except PublishFault String)}
    {c : Cut} (h : reply.outcome = .error c) :
    Stops record (.ok sample :: rest) [.serialized sample reply] (.error c)
  | refused (sample : Sample) (payload : String) (rest : Agenda)
    {reply : Reply (Except PublishFault Unit)} {c : Cut} (h : reply.outcome = .error c) :
    Stops record (.ok sample :: rest)
      [.serialized sample (.value (.ok payload)), .sent (record sample payload) sample reply]
      (.error c)

/-- An agenda has been carried out up to a point: it has been published as far as it is done, and
left off at the rest. -/
def Carried (record : Sample → String → Record) (agenda : Agenda) (trace : List Publication)
    (outcome : Except Cut Unit) : Prop :=
  ∃ (done : List (Sample × String)) (rest : Agenda) (tail : List Publication),
    agenda = done.map (fun d => .ok d.1) ++ rest ∧
    trace = done.flatMap (publications record) ++ tail ∧
    Stops record rest tail outcome

variable {record : Sample → String → Record} {a b : Agenda} {trace tail : List Publication}
variable {o : Except Cut Unit} {c : Cut}

theorem Stops.more (h : Stops record a trace (.error c)) (b : Agenda) :
    Stops record (a ++ b) trace (.error c) := by
  cases h with
  | failed c rest => exact .failed c _
  | unserialized sample rest h => exact .unserialized sample _ h
  | refused sample payload rest h => exact .refused sample payload _ h

theorem Carried.nil : Carried record [] [] (.ok ()) := ⟨[], [], [], rfl, rfl, .ended⟩

/-- Once an agenda is left off, nothing comes of what is added to it. -/
theorem Carried.more (h : Carried record a trace (.error c)) (b : Agenda) :
    Carried record (a ++ b) trace (.error c) := by
  obtain ⟨done, rest, tail, ha, ht, hs⟩ := h
  exact ⟨done, rest ++ b, tail, by rw [ha, List.append_assoc], ht, hs.more b⟩

/-- An agenda that is done can be added to, and what is added left off. -/
theorem Carried.stops (h : Carried record a trace (.ok ())) (hs : Stops record b tail o) :
    Carried record (a ++ b) (trace ++ tail) o := by
  obtain ⟨done, _, _, ha, ht, ⟨⟩⟩ := h
  exact ⟨done, b, tail, by rw [ha, List.append_nil], by rw [ht, List.append_nil], hs⟩

theorem Carried.cut (h : Carried record a trace (.ok ())) (c : Cut) :
    Carried record (a ++ [.error c]) trace (.error c) := by
  have hs : Carried record (a ++ [.error c]) (trace ++ []) (.error c) := h.stops (.failed c [])
  rwa [List.append_nil] at hs

/-- An agenda that is done can be added to.  Whether the sample that is added is published is up to
the producer, once the sample has been serialized. -/
theorem Carried.sent (h : Carried record a trace (.ok ())) (sample : Sample) (payload : String)
    (reply : Reply (Except PublishFault Unit)) :
    Carried record (a ++ [.ok sample])
      (trace ++ [.serialized sample (.value (.ok payload))] ++
        [.sent (record sample payload) sample reply])
      reply.outcome := by
  rw [List.append_assoc]
  rcases reply with (fault | _) | message
  · -- refused: the agenda is left off at this sample
    exact h.stops (.refused sample payload [] rfl)
  · -- published: one more sample is done
    obtain ⟨done, _, _, ha, ht, ⟨⟩⟩ := h
    refine ⟨done ++ [(sample, payload)], [], [], ?_, ?_, .ended⟩
    · simp [ha]
    · simp [ht, publications]
  · exact h.stops (.refused sample payload [] rfl)

/-! #### What is accepted -/

/-- Where an agenda is left off, nothing is accepted. -/
theorem Stops.accepted (h : Stops record a tail o) :
    tail.filterMap Publication.accepted? = [] := by
  cases h with
  | ended => rfl
  | failed c rest => rfl
  | unserialized sample rest h => rfl
  | @refused sample payload rest reply c h =>
    rcases reply with (fault | _) | message
    · rfl
    · -- a reply that accepts the record is no failure
      cases h
    · rfl

/-! #### What fails -/

end Agenda

/-! ### What samples say of the pass -/

section Stamps

variable {groups : List String} {nodeId : Int32} {now : Int64} {s : Sample}

/-- A sample is what the usual conversion makes of an observed value. -/
def Sample.Converted (groups : List String) (nodeId : Int32) (now : Int64) (s : Sample) : Prop :=
  ∃ id value, Conversion.sample? groups id value now nodeId = some s

/-- Only of a finite value there is a sample, and it has this value. -/
theorem Sample.Converted.finite (h : s.Converted groups nodeId now) : s.value.isFinite = true := by
  obtain ⟨id, value, hs⟩ := h
  unfold Conversion.sample? at hs
  split at hs
  · next hfinite =>
    cases hs
    exact hfinite
  · cases hs

theorem converted_of_mem_legacySamples {r : Rates} {metrics : List LegacyMetric}
    (h : s ∈ legacySamples groups nodeId now r metrics) : s.Converted groups nodeId now := by
  induction metrics generalizing r with
  | nil => cases h
  | cons m rest ih =>
    rw [legacySamples] at h
    rcases List.mem_append.mp h with hm | hrest
    · obtain ⟨value, -, hs⟩ := Option.bind_eq_some_iff.mp (Option.mem_toList.mp hm)
      exact ⟨m.id, value, hs⟩
    · exact ih hrest

/-- The end of a walk is no sample. -/
theorem converted_of_mem_walk {r : Rates} {w : Walk}
    (h : .ok s ∈ w.agenda groups nodeId now r) : s.Converted groups nodeId now := by
  rcases List.mem_append.mp h with hm | hend
  · obtain ⟨s', hs', ⟨⟩⟩ := List.mem_map.mp hm
    exact converted_of_mem_legacySamples hs'
  · revert hend
    rcases w.ending with _ | reason | _
    · exact nofun
    · exact fun hend => nomatch List.mem_singleton.mp hend
    · exact fun hend => nomatch List.mem_singleton.mp hend

theorem converted_of_mem_readingAgenda {idOf : H → MetricId} {reading : H × Reply Float}
    (h : .ok s ∈ readingAgenda groups nodeId now idOf reading) : s.Converted groups nodeId now := by
  obtain ⟨handle, value | message⟩ := reading
  · obtain ⟨s', hs', ⟨⟩⟩ := List.mem_map.mp h
    exact ⟨idOf handle, value, Option.mem_toList.mp hs'⟩
  · cases List.mem_singleton.mp h

/-- The host's sample has the value that has been read, whatever it is. -/
theorem of_mem_hostAgenda {reply : Reply (Option Float)}
    (h : .ok s ∈ hostAgenda nodeId now reply) :
    reply = .value (some s.value) ∧
      Conversion.hostSample (some s.value) now nodeId = .ok s := by
  rcases reply with (_ | value) | message
  · cases List.mem_singleton.mp h
  · cases List.mem_singleton.mp h
    exact ⟨rfl, rfl⟩
  · cases List.mem_singleton.mp h

end Stamps

end MetricFeed
