/-
MetricFeed/Reporting/Rates.lean

Values to report of the legacy registry's metrics.  A counter is reported as a rate per second
over the time since it was last observed, so the first observation only sets its baseline; a
gauge is reported as it is; of a histogram or a summary the mean is reported once there are
observations.

A walk over the registry that is completed drops the baselines of the counters that it did not
visit (`finishWalk`).
-/
import MetricFeed.Duration
import MetricFeed.Metric.Legacy
import MetricFeed.Table

namespace MetricFeed

/-- The last observation of a counter. -/
structure Observation where
  count : Float
  timeMs : Int64

/-- What is remembered of counters between visits. -/
structure Rates where
  baselines : Table MetricId Observation := {}
  /-- The counters visited since the last completed walk. -/
  visited : List MetricId := []
  deriving Inhabited

/-- The milliseconds from one time to another, kept within 64 bits. -/
def elapsedMs (later earlier : Int64) : Int :=
  max (-greatestMillis - 1) (min (greatestMillis : Int) (later.toInt - earlier.toInt))

/-- The rate per second between two observations: a counter that went backwards was reset and
counts from zero.  There is none unless time has passed. -/
def Observation.rate? (previous current : Observation) : Option Float :=
  let elapsed := elapsedMs current.timeMs previous.timeMs
  if elapsed ≤ 0 then none
  else
    let delta :=
      if previous.count ≤ current.count then current.count - previous.count else current.count
    some (delta / (elapsed.toNat.toUInt64.toFloat / 1000))

namespace Rates

/-- The count of counters with a baseline. -/
def tracked (r : Rates) : Nat := r.baselines.size

/-- The value to report for a metric visited at the time `now`, and what is remembered then. -/
def observe (r : Rates) (metric : LegacyMetric) (now : Int64) : Rates × Option Float :=
  match metric.value with
  | .gauge value => (r, some value)
  | .counter count =>
    let current : Observation := ⟨count, now⟩
    ({ baselines := r.baselines.insert metric.id current
       visited := metric.id :: r.visited },
      (r.baselines.get? metric.id).bind (·.rate? current))
  | .histogram count sum | .summary count sum =>
    (r, if 0 < count then some (sum / count.toFloat) else none)

/-- What is remembered after a completed walk. -/
def finishWalk (r : Rates) : Rates :=
  { baselines := r.baselines.filterKeys r.visited.contains, visited := [] }

theorem visited_finishWalk (r : Rates) : r.finishWalk.visited = [] := rfl

theorem get?_finishWalk (r : Rates) (id : MetricId) :
    r.finishWalk.baselines.get? id =
      if id ∈ r.visited then r.baselines.get? id else none := by
  simp [finishWalk]

end Rates

end MetricFeed
