/-
MetricFeed/Proofs/Reporting/Audit.lean

The records that the producer accepts in a collection pass.  The audited surroundings do what the
surroundings do and keep a list of these records beside (`Surroundings.audited`).  That the list is
kept changes nothing: seen without it, an audited pass is the pass (`Pass.run_maps`).
-/
import MetricFeed.Proofs.Reporting.View

namespace MetricFeed

variable {S H α : Type}

/-! ### Audited surroundings -/

/-- A state of the surroundings, and the records that the producer has accepted, in order. -/
structure Audited (S : Type) where
  base : S
  accepted : List Record := []

namespace Audited

/-- What is done to the surroundings leaves the accepted records alone. -/
def lift (f : S → α × S) (a : Audited S) : α × Audited S :=
  ((f a.base).1, { a with base := (f a.base).2 })

def liftFlight (f : S → Flight S α × S) (a : Audited S) : Flight (Audited S) α × Audited S :=
  (⟨(f a.base).1.delay, lift (f a.base).1.finish⟩, { a with base := (f a.base).2 })

/-- Hands a record to the producer, and keeps it if it is accepted. -/
def send (producer : Producer S) (r : Record) (sample : Sample) (a : Audited S) :
    Reply (Except PublishFault Unit) × Audited S :=
  match producer.send r sample a.base with
  | (.value (.ok ()), s) => (.value (.ok ()), ⟨s, a.accepted ++ [r]⟩)
  | (reply, s) => (reply, { a with base := s })

end Audited

/-- The surroundings with the accepted records beside them. -/
def Surroundings.audited (sur : Surroundings S H) : Surroundings (Audited S) H where
  note n a := { a with base := sur.note n a.base }
  cancelled a := sur.cancelled a.base
  walk := sur.walk.map Audited.lift
  registered a := sur.registered a.base
  idOf := sur.idOf
  read handle := Audited.lift (sur.read handle)
  converter :=
    { sample := fun id value now nodeId => Audited.lift (sur.converter.sample id value now nodeId)
      host := fun now nodeId => Audited.lift (sur.converter.host now nodeId) }
  channel :=
    { failures := fun a => sur.channel.failures a.base
      setFailures := fun n a => { a with base := sur.channel.setFailures n a.base }
      note := fun n a => { a with base := sur.channel.note n a.base }
      topic := sur.channel.topic
      serialize := fun sample => Audited.lift (sur.channel.serialize sample)
      producer :=
        { send := Audited.send sur.channel.producer
          flush := Audited.liftFlight sur.channel.producer.flush
          close := fun timeout => Audited.liftFlight (sur.channel.producer.close timeout) }
      isClosed := fun a => sur.channel.isClosed a.base
      markClosed := fun a => { a with base := sur.channel.markClosed a.base } }
  admin r := Audited.liftFlight (sur.admin r)
  favoursCall := Audited.lift sur.favoursCall

/-! ### An audited pass, seen without its list, is the pass -/

/-- What a pass works on, without the list of accepted records. -/
def PassState.unaudited (p : PassState (Audited S)) : PassState S :=
  { state := p.state.base, rates := p.rates, walked := p.walked, published := p.published }

namespace Pass

open Act (Maps)

variable {sur : Surroundings S H} {nodeId : Int32} {now : Int64}

theorem send_audited (r : Record) (sample : Sample) (a : Audited S) :
    sur.channel.producer.send r sample a.base =
      ((sur.audited.channel.producer.send r sample a).1,
        (sur.audited.channel.producer.send r sample a).2.base) := by
  show _ = ((Audited.send sur.channel.producer r sample a).1,
    (Audited.send sur.channel.producer r sample a).2.base)
  unfold Audited.send
  rcases sur.channel.producer.send r sample a.base with ⟨(_ | _) | _, s⟩ <;> rfl

theorem publish_audited (sample : Sample) (a : Audited S) :
    sur.channel.publish sample a.base =
      ((sur.audited.channel.publish sample a).1,
        (sur.audited.channel.publish sample a).2.base) := by
  unfold Channel.publish
  have hs : sur.audited.channel.serialize sample a =
      Audited.lift (sur.channel.serialize sample) a := rfl
  rw [hs]
  unfold Audited.lift
  rcases sur.channel.serialize sample a.base with ⟨(fault | payload) | message, s⟩
  · rfl
  · -- only what has been serialized is sent
    exact send_audited _ sample ⟨sur.channel.note (.sending sample) s, a.accepted⟩
  · rfl

theorem seen_audited (sur : Surroundings S H) : sur.audited.Seen Audited.base sur where
  note _ _ := rfl
  noWalk hnone := Option.map_eq_none_iff.mp hnone
  walk walk' hsome := by
    obtain ⟨walk, hwalk, rfl⟩ := Option.map_eq_some_iff.mp hsome
    exact ⟨walk, hwalk, fun _ => rfl⟩
  registered _ := rfl
  idOf := rfl
  read _ _ := rfl
  sample _ _ _ _ _ := rfl
  host _ _ _ := rfl
  publish := publish_audited

/-- **The audit changes nothing**: seen without its list, an audited pass is the pass. -/
theorem run_maps :
    Maps PassState.unaudited (run sur.audited nodeId now) (run sur nodeId now) :=
  run_seen (seen_audited sur)

end Pass

end MetricFeed
