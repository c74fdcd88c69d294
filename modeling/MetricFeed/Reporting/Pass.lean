/-
MetricFeed/Reporting/Pass.lean

One collection pass: the metrics of the legacy registry, then the registered metrics, then the
host's utilization are converted and published.  The first fault or panic ends the pass; what was
published before stays published and counts.  The records that the producer accepts during a walk
are counted when the walk is over, so a panic in the midst of a walk loses their count.
-/
import MetricFeed.Reporting.Rates
import MetricFeed.Reporting.Surroundings

namespace MetricFeed

/-- What a pass works on. -/
structure PassState (S : Type) where
  state : S
  rates : Rates
  /-- The records accepted in the walk that is under way. -/
  walked : Nat := 0
  /-- The records that count as published. -/
  published : Nat := 0

namespace Pass

variable {S H : Type}

/-! ### Elementary actions -/

/-- Asks a collaborator; a panic cuts the pass short. -/
def ask {α : Type} (f : S → Reply α × S) : Act (PassState S) α := fun p =>
  match f p.state with
  | (.value a, s) => (.ok a, { p with state := s })
  | (.panicked _, s) => (.error .panic, { p with state := s })

/-- Says something in the log. -/
def say (sur : Surroundings S H) (n : Notice) : Act (PassState S) Unit :=
  Act.change fun p => { p with state := sur.note n p.state }

/-- Publishes a sample; a refusal cuts the pass short. -/
def publish (sur : Surroundings S H) (sample : Sample) : Act (PassState S) Unit := do
  match ← ask (sur.channel.publish sample) with
  | .ok () => pure ()
  | .error fault => Act.cut (.fault (.publish fault))

/-- Counts a record as published. -/
def countPublished (n : Nat) : Act (PassState S) Unit :=
  Act.change fun p => { p with published := p.published + n }

/-! ### Legacy metrics -/

/-- The value to report for a legacy metric. -/
def observe (metric : LegacyMetric) (now : Int64) : Act (PassState S) (Option Float) := fun p =>
  let (rates, value) := p.rates.observe metric now
  (.ok value, { p with rates })

/-- Converts a legacy metric and hands its sample to a sink, if there is a value to report. -/
def convertLegacy (converter : Converter S) (sink : Sample → Act (PassState S) Unit)
    (nodeId : Int32) (now : Int64) (metric : LegacyMetric) : Act (PassState S) Unit := do
  match ← observe metric now with
  | none => pure ()
  | some value =>
    match ← ask (converter.sample metric.id value now nodeId) with
    | none => pure ()
    | some sample => sink sample

/-- Publishes a sample as part of the walk that is under way. -/
def publishWalked (sur : Surroundings S H) (sample : Sample) : Act (PassState S) Unit := do
  publish sur sample
  Act.change fun p => { p with walked := p.walked + 1 }

/-- Converts and publishes a legacy metric, if it has a value to report. -/
def visit (sur : Surroundings S H) (nodeId : Int32) (now : Int64) (metric : LegacyMetric) :
    Act (PassState S) Unit := do
  say sur (.processingLegacy metric.id)
  convertLegacy sur.converter (publishWalked sur) nodeId now metric

/-- Adds the records of a walk to those published. -/
def countWalked : Act (PassState S) Unit :=
  Act.change fun p => { p with published := p.published + p.walked, walked := 0 }

/-- Walks over the legacy registry.  The records of the walk are counted unless it panics; only a
completed walk makes the rates forget. -/
def reportLegacy (sur : Surroundings S H) (nodeId : Int32) (now : Int64) :
    Act (PassState S) Unit :=
  match sur.walk with
  | none => pure ()
  | some walk => do
    say sur .reportingLegacy
    let w ← ask fun s => ((.value (walk s).1 : Reply Walk), (walk s).2)
    Act.change fun p => { p with walked := 0 }
    let outcome ← Act.attempt
      (w.run (fun m => say sur (.visitingLegacy m.id)) (visit sur nodeId now))
    match outcome with
    | .error .panic => Act.cut .panic
    | .error (.fault fault) => do
      countWalked
      Act.cut (.fault fault)
    | .ok () => do
      countWalked
      Act.change fun p => { p with rates := p.rates.finishWalk }
      say sur .legacyReported

/-! ### Registered metrics -/

/-- Reads, converts and publishes a registered metric, if its value has a sample. -/
def reportHandle (sur : Surroundings S H) (nodeId : Int32) (now : Int64) (handle : H) :
    Act (PassState S) Unit := do
  say sur (.convertingRegistered (sur.idOf handle))
  let value ← ask (sur.read handle)
  match ← ask (sur.converter.sample (sur.idOf handle) value now nodeId) with
  | none => pure ()
  | some sample => do
    publish sur sample
    countPublished 1

/-- Reports metrics one after the other. -/
def reportHandles (sur : Surroundings S H) (nodeId : Int32) (now : Int64) :
    List H → Act (PassState S) Unit
  | [] => pure ()
  | handle :: rest => do
    reportHandle sur nodeId now handle
    reportHandles sur nodeId now rest

/-- Reports the metrics that are registered when it begins. -/
def reportRegistered (sur : Surroundings S H) (nodeId : Int32) (now : Int64) :
    Act (PassState S) Unit := do
  let handles ← (fun p => (.ok (sur.registered p.state), p) : Act (PassState S) (List H))
  say sur (.reportingRegistered handles.length)
  reportHandles sur nodeId now handles
  say sur .registeredReported

/-! ### The host -/

/-- Reports the host's utilization. -/
def reportHost (sur : Surroundings S H) (nodeId : Int32) (now : Int64) :
    Act (PassState S) Unit := do
  say sur .reportingHost
  match ← ask (sur.converter.host now nodeId) with
  | .error fault => Act.cut (.fault fault)
  | .ok sample => do
    publish sur sample
    countPublished 1

/-! ### The pass -/

/-- A collection pass at the time `now`. -/
def run (sur : Surroundings S H) (nodeId : Int32) (now : Int64) : Act (PassState S) Unit := do
  reportLegacy sur nodeId now
  reportRegistered sur nodeId now
  reportHost sur nodeId now

end Pass

end MetricFeed
