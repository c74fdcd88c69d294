/-
MetricFeed/Proofs/Reporting/Trace.lean

What the collaborators answer in a collection pass.  The traced surroundings do what the
surroundings do, and keep beside, in order, what the gauges, the sampler of the host, the
serializer and the producer have answered (`Surroundings.traced`).

Main result (`Pass.seen_traced`): the trace changes nothing, and the producer has accepted the
records of which the trace says so.  For the usual conversion only, since it is the one that asks a
sampler.
-/
import MetricFeed.Proofs.Reporting.Audit

namespace MetricFeed

variable {S H α : Type}

/-! ### Publications -/

/-- How publishing goes on after a reply of the serializer or the producer. -/
def Reply.outcome : Reply (Except PublishFault α) → Except Cut Unit
  | .value (.ok _) => .ok ()
  | .value (.error fault) => .error (.fault (.publish fault))
  | .panicked _ => .error .panic

/-- What came of one of the two steps by which a sample is published. -/
inductive Publication
  | serialized (sample : Sample) (reply : Reply (Except PublishFault String))
  | sent (record : Record) (sample : Sample) (reply : Reply (Except PublishFault Unit))

namespace Publication

/-- How publishing goes on after the step. -/
def outcome : Publication → Except Cut Unit
  | .serialized _ reply => reply.outcome
  | .sent _ _ reply => reply.outcome

/-- The record that the producer has accepted, if the step is that. -/
def accepted? : Publication → Option Record
  | .sent record _ (.value (.ok _)) => some record
  | .sent _ _ (.value (.error _)) | .sent _ _ (.panicked _) | .serialized _ _ => none

end Publication

/-! ### Traced surroundings -/

/-- A state of the surroundings, and what the collaborators have answered. -/
structure Traced (S H : Type) where
  base : S
  /-- The readings of the registered metrics. -/
  reads : List (H × Reply Float) := []
  /-- The readings of the host's utilization. -/
  sampled : List (Reply (Option Float)) := []
  publications : List Publication := []

namespace Traced

/-- What is done to the surroundings leaves the answers alone. -/
def lift (f : S → α × S) (t : Traced S H) : α × Traced S H :=
  ((f t.base).1, { t with base := (f t.base).2 })

def liftFlight (f : S → Flight S α × S) (t : Traced S H) :
    Flight (Traced S H) α × Traced S H :=
  (⟨(f t.base).1.delay, lift (f t.base).1.finish⟩, { t with base := (f t.base).2 })

/-- Does something to the surroundings and keeps the answer. -/
def keeping (keep : α → Traced S H → Traced S H) (f : S → α × S) (t : Traced S H) :
    α × Traced S H :=
  ((f t.base).1, keep (f t.base).1 { t with base := (f t.base).2 })

def addRead (handle : H) (reply : Reply Float) (t : Traced S H) : Traced S H :=
  { t with reads := t.reads ++ [(handle, reply)] }

def addSampled (reply : Reply (Option Float)) (t : Traced S H) : Traced S H :=
  { t with sampled := t.sampled ++ [reply] }

def addPublication (p : Publication) (t : Traced S H) : Traced S H :=
  { t with publications := t.publications ++ [p] }

/-- The trace as an audit sees it. -/
def audit (t : Traced S H) : Audited S :=
  ⟨t.base, t.publications.filterMap Publication.accepted?⟩

end Traced

/-- The surroundings with a trace beside them.  They have the usual conversion. -/
def Surroundings.traced (sur : Surroundings S H) (groups : List String)
    (sampler : S → Reply (Option Float) × S) : Surroundings (Traced S H) H where
  note n t := { t with base := sur.note n t.base }
  cancelled t := sur.cancelled t.base
  walk := sur.walk.map Traced.lift
  registered t := sur.registered t.base
  idOf := sur.idOf
  read handle := Traced.keeping (Traced.addRead handle) (sur.read handle)
  converter := .standard groups (Traced.keeping Traced.addSampled sampler)
  channel :=
    { failures := fun t => sur.channel.failures t.base
      setFailures := fun n t => { t with base := sur.channel.setFailures n t.base }
      note := fun n t => { t with base := sur.channel.note n t.base }
      topic := sur.channel.topic
      serialize := fun sample =>
        Traced.keeping (fun reply => Traced.addPublication (.serialized sample reply))
          (sur.channel.serialize sample)
      producer :=
        { send := fun r sample =>
            Traced.keeping (fun reply => Traced.addPublication (.sent r sample reply))
              (sur.channel.producer.send r sample)
          flush := Traced.liftFlight sur.channel.producer.flush
          close := fun timeout => Traced.liftFlight (sur.channel.producer.close timeout) }
      isClosed := fun t => sur.channel.isClosed t.base
      markClosed := fun t => { t with base := sur.channel.markClosed t.base } }
  admin r := Traced.liftFlight (sur.admin r)
  favoursCall := Traced.lift sur.favoursCall

section Traces

variable {sur : Surroundings S H} {groups : List String} {sampler : S → Reply (Option Float) × S}

/-! #### What the collaborators answer, and what is kept of it -/

theorem Surroundings.traced_read (handle : H) (t : Traced S H) :
    (sur.traced groups sampler).read handle t =
      ((sur.read handle t.base).1,
        Traced.addRead handle (sur.read handle t.base).1
          { t with base := (sur.read handle t.base).2 }) := rfl

theorem Surroundings.traced_serialize (sample : Sample) (t : Traced S H) :
    (sur.traced groups sampler).channel.serialize sample t =
      ((sur.channel.serialize sample t.base).1,
        Traced.addPublication (.serialized sample (sur.channel.serialize sample t.base).1)
          { t with base := (sur.channel.serialize sample t.base).2 }) := rfl

theorem Surroundings.traced_send (r : Record) (sample : Sample) (t : Traced S H) :
    (sur.traced groups sampler).channel.producer.send r sample t =
      ((sur.channel.producer.send r sample t.base).1,
        Traced.addPublication (.sent r sample (sur.channel.producer.send r sample t.base).1)
          { t with base := (sur.channel.producer.send r sample t.base).2 }) := rfl

/-- The sample of the host as far as its sampler admits one. -/
theorem Surroundings.traced_host (now : Int64) (nodeId : Int32) (t : Traced S H) :
    (sur.traced groups sampler).converter.host now nodeId t =
      (match (sampler t.base).1 with
        | .value utilization => .value (Conversion.hostSample utilization now nodeId)
        | .panicked message => .panicked message,
      Traced.addSampled (sampler t.base).1 { t with base := (sampler t.base).2 }) := by
  show (Converter.standard groups (Traced.keeping Traced.addSampled sampler)).host now nodeId t = _
  unfold Converter.standard Traced.keeping
  dsimp only
  rcases sampler t.base with ⟨_ | _, s⟩ <;> rfl

/-! ### A traced pass, seen through the audit, is the audited pass -/

namespace Pass

theorem audit_of_none {p : Publication} (h : p.accepted? = none) (t : Traced S H) :
    (t.addPublication p).audit = t.audit := by
  have hl : (t.publications ++ [p]).filterMap Publication.accepted? =
      t.publications.filterMap Publication.accepted? := by
    simp [List.filterMap_append, h]
  exact congrArg (Audited.mk t.base) hl

theorem audit_of_some {p : Publication} {r : Record} (h : p.accepted? = some r)
    (t : Traced S H) :
    (t.addPublication p).audit = ⟨t.base, t.audit.accepted ++ [r]⟩ := by
  have hl : (t.publications ++ [p]).filterMap Publication.accepted? =
      t.publications.filterMap Publication.accepted? ++ [r] := by
    simp [List.filterMap_append, h]
  exact congrArg (Audited.mk t.base) hl

/-- Serializing leaves the accepted records alone. -/
theorem serialize_traced (sample : Sample) (t : Traced S H) :
    sur.audited.channel.serialize sample t.audit =
      (((sur.traced groups sampler).channel.serialize sample t).1,
        ((sur.traced groups sampler).channel.serialize sample t).2.audit) :=
  congrArg (Prod.mk _) (audit_of_none rfl { t with base := _ }).symm

/-- Sending notes the record if it is accepted. -/
theorem audited_send (r : Record) (sample : Sample) (t : Traced S H) :
    sur.audited.channel.producer.send r sample t.audit =
      match sur.channel.producer.send r sample t.base with
      | (.value (.ok ()), s) => (.value (.ok ()), ⟨s, t.audit.accepted ++ [r]⟩)
      | (reply, s) => (reply, ⟨s, t.audit.accepted⟩) := rfl

theorem send_traced (r : Record) (sample : Sample) (t : Traced S H) :
    sur.audited.channel.producer.send r sample t.audit =
      (((sur.traced groups sampler).channel.producer.send r sample t).1,
        ((sur.traced groups sampler).channel.producer.send r sample t).2.audit) := by
  rw [audited_send, Surroundings.traced_send]
  rcases sur.channel.producer.send r sample t.base with ⟨(_ | _) | _, s⟩
  · exact congrArg (Prod.mk _) (audit_of_none rfl { t with base := s }).symm
  · -- accepted: both lists grow by the record
    exact congrArg (Prod.mk _) (audit_of_some rfl { t with base := s }).symm
  · exact congrArg (Prod.mk _) (audit_of_none rfl { t with base := s }).symm

theorem publish_traced (sample : Sample) (t : Traced S H) :
    sur.audited.channel.publish sample t.audit =
      (((sur.traced groups sampler).channel.publish sample t).1,
        ((sur.traced groups sampler).channel.publish sample t).2.audit) := by
  unfold Channel.publish
  rw [serialize_traced]
  rcases (sur.traced groups sampler).channel.serialize sample t with
    ⟨(fault | payload) | message, t'⟩
  · rfl
  · -- only what has been serialized is sent
    exact send_traced _ sample ((sur.traced groups sampler).channel.note (.sending sample) t')
  · rfl

/-- Surroundings with the usual conversion, traced and audited. -/
theorem seen_traced (hconv : sur.converter = .standard groups sampler) :
    (sur.traced groups sampler).Seen Traced.audit sur.audited where
  note _ _ := rfl
  noWalk hnone := congrArg (Option.map Audited.lift) (Option.map_eq_none_iff.mp hnone)
  walk walk' hsome := by
    obtain ⟨walk, hwalk, rfl⟩ := Option.map_eq_some_iff.mp hsome
    exact ⟨Audited.lift walk, congrArg (Option.map Audited.lift) hwalk, fun _ => rfl⟩
  registered _ := rfl
  idOf := rfl
  read _ _ := rfl
  sample id value now nodeId t := by
    show Audited.lift (sur.converter.sample id value now nodeId) t.audit = _
    rw [hconv]
    rfl
  host now nodeId t := by
    show Audited.lift (sur.converter.host now nodeId) t.audit = _
    rw [Surroundings.traced_host, hconv]
    show Audited.lift ((Converter.standard groups sampler).host now nodeId) t.audit = _
    unfold Audited.lift Converter.standard
    dsimp only [Traced.audit, Traced.addSampled]
    rcases sampler t.base with ⟨_ | _, s⟩ <;> rfl
  publish := publish_traced

/-- Without the trace, the surroundings are as they were. -/
theorem seen_untraced (hconv : sur.converter = .standard groups sampler) :
    (sur.traced groups sampler).Seen Traced.base sur :=
  (seen_traced hconv).trans (seen_audited sur)

end Pass

end Traces

end MetricFeed
