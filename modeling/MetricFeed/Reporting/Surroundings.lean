/-
MetricFeed/Reporting/Surroundings.lean

All that a reporting loop needs from outside, as functions on the state `S` of its surroundings:
the metrics that it reads, the conversion to samples, the channel they are published through, the
broker's administration, the log and the request to stop.  `H` is the type of the handles through
which registered metrics are read.

Nothing is assumed of these functions: any of them may fail or panic where its type admits it.
-/
import MetricFeed.Reporting.Channel
import MetricFeed.Reporting.Conversion
import MetricFeed.Reporting.Dialogue
import MetricFeed.Reporting.Walk

namespace MetricFeed

/-- The conversion of observed values to samples. -/
structure Converter (S : Type) where
  sample : MetricId → Float → Int64 → Int32 → S → Reply (Option Sample) × S
  host : Int64 → Int32 → S → Reply (Except ReportFault Sample) × S

/-- The usual conversion, with a sampler of the host's utilization. -/
def Converter.standard {S : Type} (brokerGroups : List String)
    (sampler : S → Reply (Option Float) × S) : Converter S where
  sample id value now nodeId s :=
    (.value (Conversion.sample? brokerGroups id value now nodeId), s)
  host now nodeId s :=
    match sampler s with
    | (.value utilization, s) => (.value (Conversion.hostSample utilization now nodeId), s)
    | (.panicked message, s) => (.panicked message, s)

/-- What a reporting loop needs from outside. -/
structure Surroundings (S H : Type) where
  /-- Writes to the log. -/
  note : Notice → S → S
  /-- Whether the loop has been told to stop. -/
  cancelled : S → Bool
  /-- A walk over the legacy registry, if there is one. -/
  walk : Option (S → Walk × S)
  /-- The handles of the registered metrics. -/
  registered : S → List H
  idOf : H → MetricId
  read : H → S → Reply Float × S
  converter : Converter S
  channel : Channel S
  admin : Administration S
  /-- Whether an answer is looked at before the request to stop when both have come. -/
  favoursCall : S → Bool × S

end MetricFeed
