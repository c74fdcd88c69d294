/-
MetricFeed/Settings/Agent.lean

The settings of the whole agent: the node that it reports for, its reporting interval, the
producer's settings and the topic's.  They are read in this order and the first fault wins.
-/
import MetricFeed.Settings.Producer
import MetricFeed.Settings.Topic

namespace MetricFeed

/-- The settings of the agent. -/
structure Settings where
  nodeId : Int32
  interval : Duration
  producer : ProducerSettings
  topic : TopicSettings
  deriving DecidableEq, Inhabited

/-- The part of the settings that could not be loaded. -/
inductive SettingsPart
  | agent
  | producer
  | topic
  deriving DecidableEq

/-- Why the settings could not be loaded. -/
structure LoadFailure where
  part : SettingsPart
  fault : SettingFault
  deriving DecidableEq

def LoadFailure.message (f : LoadFailure) : String :=
  match f.part with
  | .agent => f.fault.message
  | .producer => "Failed to load producer config: " ++ f.fault.message
  | .topic => "Failed to load topic config: " ++ f.fault.message

namespace Settings

def nodeIdProperty : String := "node.id"
def intervalProperty : String := "metrics.reporter.interval.ms"

/-- The reporting interval when none is set, in milliseconds. -/
def defaultIntervalMs : Nat := 60000

/-- The node that is set. -/
def loadNodeId (l : Lookup) : Except SettingFault Int32 :=
  match l nodeIdProperty with
  | none => .error (.missing nodeIdProperty)
  | some raw => (Lookup.integer .i32 nodeIdProperty raw).map Int32.ofInt

/-- The interval that is set, or the default; at least one millisecond. -/
def loadInterval (l : Lookup) : Except SettingFault Duration := do
  let ms ← l.integerOr .u64 intervalProperty defaultIntervalMs
  if ms = 0 ∨ greatestMillis < ms then
    .error (.invalidValue intervalProperty (toString ms)
      ("reporting interval must be between 1 and " ++ toString greatestMillis ++ " ms"))
  else
    .ok (.ofMillis ms.toNat)

/-- What loading leads to, with the part that a fault belongs to. -/
def inPart {α : Type} (part : SettingsPart) (r : Except SettingFault α) :
    Except LoadFailure α :=
  r.mapError (⟨part, ·⟩)

/-- Loads the settings, with what is said in the log on the way. -/
def loadNoting (l : Lookup) : List Notice × Except LoadFailure Settings :=
  match inPart .agent (loadNodeId l), inPart .agent (loadInterval l) with
  | .error f, _ => ([], .error f)
  | .ok _, .error f => ([], .error f)
  | .ok nodeId, .ok interval =>
    let (notices, producer) := ProducerSettings.loadNoting l
    (notices, do
      let producer ← inPart .producer producer
      let topic ← inPart .topic (TopicSettings.load l)
      return { nodeId, interval, producer, topic })

/-- Loads the settings. -/
def load (l : Lookup) : Except LoadFailure Settings :=
  (loadNoting l).2

end Settings

end MetricFeed
