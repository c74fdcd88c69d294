/-
MetricFeed/Proofs/Reporting/Counters.lean

The rates of counters as a function of history.  What is remembered of counters is built up by
calls: visits of metrics, each with its own time and sink, and the ends of completed walks.
Between the calls others may change the state that converter and sinks share.

A counter has a history of its own (`historyOf`): its visits, and the ends of walks.  Whatever
else is visited, and whatever becomes of the samples, leaves it alone.

* `Rates.Recalls` : what is remembered of a counter follows its history; `Recalls.after` derives
  this for all calls from the step `Recalls.act`;
* `LegacyCall.visit_counter` : the outcome of the next visit of a counter, by its history alone.
-/
import MetricFeed.Proofs.Reporting.Baselines

namespace MetricFeed

open Act (Keeps)

variable {S : Type}

/-! ### Calls -/

/-- A sink for samples.  It may refuse any of them, or panic, but knows nothing of rates. -/
structure LegacySink (S : Type) where
  hand : Sample → Act (PassState S) Unit
  keeps_rates : ∀ sample r, Keeps (fun p : PassState S => p.rates = r) (hand sample)

/-- The sink of the walks of a loop. -/
def LegacySink.walked {H : Type} (sur : Surroundings S H) : LegacySink S where
  hand := Pass.publishWalked sur
  keeps_rates := Pass.publishWalked_rates

/-- What happens to the memory of counters and to the state around it. -/
inductive LegacyCall (S : Type)
  | visit (sink : LegacySink S) (nodeId : Int32) (now : Int64) (metric : LegacyMetric)
  | finishWalk
  /-- Others change the state that converter and sinks share. -/
  | elsewhere (f : S → S)

namespace LegacyCall

/-- What a call does. -/
def act (converter : Converter S) : LegacyCall S → Act (PassState S) Unit
  | visit sink nodeId now metric => Pass.convertLegacy converter sink.hand nodeId now metric
  | finishWalk => Act.change fun p => { p with rates := p.rates.finishWalk }
  | elsewhere f => Act.change fun p => { p with state := f p.state }

/-- What calls lead to, the latest first.  A call that is cut short is followed by the next one all
the same. -/
def after (converter : Converter S) (s : S) : List (LegacyCall S) → PassState S
  | [] => { state := s, rates := {} }
  | call :: earlier => (call.act converter (after converter s earlier)).2

end LegacyCall

/-! ### The history of a counter -/

/-- What counts for a counter. -/
inductive CounterEvent
  | visited (o : Observation)
  | walkFinished

/-- What a call means for a counter. -/
def LegacyCall.event? (id : MetricId) : LegacyCall S → Option CounterEvent
  | visit _ _ now ⟨visited, .counter count⟩ =>
    if visited = id then some (.visited ⟨count, now⟩) else none
  | visit _ _ _ ⟨_, .gauge _⟩ | visit _ _ _ ⟨_, .histogram _ _⟩
  | visit _ _ _ ⟨_, .summary _ _⟩ | elsewhere _ => none
  | finishWalk => some .walkFinished

theorem LegacyCall.event?_visit (id visited : MetricId) (sink : LegacySink S) (nodeId : Int32)
    (now : Int64) (count : Float) :
    (visit sink nodeId now ⟨visited, .counter count⟩).event? id =
      if visited = id then some (.visited ⟨count, now⟩) else none := rfl

/-- The history of a counter, the latest event first. -/
def historyOf (id : MetricId) (calls : List (LegacyCall S)) : List CounterEvent :=
  calls.filterMap (LegacyCall.event? id)

/-- The most recent visit, and how many walks have been finished since. -/
def lastVisit? : List CounterEvent → Option (Nat × Observation)
  | [] => none
  | .visited o :: _ => some (0, o)
  | .walkFinished :: earlier => (lastVisit? earlier).map fun (walks, o) => (walks + 1, o)

/-- The observation that is remembered: that of the most recent visit, until the second end of a
walk after it. -/
def remembered? (history : List CounterEvent) : Option Observation :=
  (lastVisit? history).bind fun (walks, o) => if walks < 2 then some o else none

/-! ### What is remembered -/

/-- What is remembered of a counter with the given history. -/
structure Rates.Recalls (id : MetricId) (history : List CounterEvent) (r : Rates) : Prop where
  baseline : r.baselines.get? id = remembered? history
  visited : id ∈ r.visited ↔ ∃ o, lastVisit? history = some (0, o)

namespace Rates.Recalls

variable {id : MetricId} {history : List CounterEvent} {r : Rates}

/-- The end of a walk drops what is remembered unless the counter was visited directly before. -/
theorem finishWalk (h : r.Recalls id history) :
    r.finishWalk.Recalls id (.walkFinished :: history) where
  baseline := by
    rw [get?_finishWalk]
    unfold remembered? lastVisit?
    by_cases hv : id ∈ r.visited
    · obtain ⟨o, ho⟩ := h.visited.mp hv
      rw [if_pos hv, h.baseline]
      unfold remembered?
      rw [ho]
      rfl
    · -- then at least one walk has been finished since the most recent visit, if there is one
      rw [if_neg hv]
      have hnot := mt h.visited.mpr hv
      rcases hlast : lastVisit? history with _ | ⟨_ | walks, o⟩
      · rfl
      · exact absurd ⟨o, hlast⟩ hnot
      · rfl
  visited := by
    rw [visited_finishWalk, lastVisit?]
    rcases lastVisit? history with _ | ⟨walks, o⟩
    · simp
    · simp

/-- The visit of a metric: only that of the counter itself counts. -/
theorem observe (h : r.Recalls id history) (sink : LegacySink S) (nodeId : Int32) (now : Int64)
    (metric : LegacyMetric) :
    (r.observe metric now).1.Recalls id
      (((LegacyCall.visit sink nodeId now metric).event? id).toList ++ history) := by
  obtain ⟨visited, value⟩ := metric
  rcases value with count | value | ⟨count, sum⟩ | ⟨count, sum⟩
  · -- a counter, maybe another one
    rw [LegacyCall.event?_visit]
    by_cases hid : visited = id
    · subst hid
      rw [if_pos rfl]
      refine ⟨?_, ?_⟩
      · show (r.baselines.insert visited ⟨count, now⟩).get? visited = some ⟨count, now⟩
        rw [Table.get?_insert, if_pos rfl]
      · exact ⟨fun _ => ⟨_, rfl⟩, fun _ => List.mem_cons_self⟩
    · rw [if_neg hid]
      refine ⟨?_, ?_⟩
      · show (r.baselines.insert visited ⟨count, now⟩).get? id = _
        rw [Table.get?_insert, if_neg (Ne.symm hid)]
        exact h.baseline
      · show id ∈ visited :: r.visited ↔ _
        rw [List.mem_cons, or_iff_right (Ne.symm hid)]
        exact h.visited
  -- gauges, histograms and summaries are not remembered
  · exact h
  · exact h
  · exact h

/-- What a call does to what is remembered, however it ends. -/
theorem act {p : PassState S} (h : p.rates.Recalls id history) (converter : Converter S)
    (call : LegacyCall S) :
    (call.act converter p).2.rates.Recalls id ((call.event? id).toList ++ history) := by
  rcases call with ⟨sink, nodeId, now, metric⟩ | _ | f
  · show (Pass.convertLegacy converter sink.hand nodeId now metric p).2.rates.Recalls id _
    rw [Pass.convertLegacy_rates sink.keeps_rates]
    exact h.observe sink nodeId now metric
  · exact h.finishWalk
  · exact h

/-- Whatever the calls, what is remembered of a counter follows its history. -/
theorem after (converter : Converter S) (s : S) (id : MetricId) (calls : List (LegacyCall S)) :
    (LegacyCall.after converter s calls).rates.Recalls id (historyOf id calls) := by
  induction calls with
  | nil => exact ⟨rfl, nofun, nofun⟩
  | cons call earlier ih =>
    have hcons : historyOf id (call :: earlier) =
        (call.event? id).toList ++ historyOf id earlier :=
      filterMap_cons_toList _ call earlier
    rw [hcons]
    exact ih.act converter call

end Rates.Recalls

/-! ### The outcome of a visit -/

/-- The rate per second from one observation to a later one.  A counter that went backwards counts
from zero, and the milliseconds between are kept within 64 bits. -/
def Observation.perSecond (previous current : Observation) : Float :=
  (if previous.count ≤ current.count then current.count - previous.count else current.count) /
    ((min (greatestMillis : Int)
      (current.timeMs.toInt - previous.timeMs.toInt)).toNat.toUInt64.toFloat / 1000)

/-- There is a rate exactly if time has passed. -/
theorem Observation.rate?_eq (previous current : Observation) :
    previous.rate? current =
      if current.timeMs ≤ previous.timeMs then none else some (previous.perSecond current) := by
  unfold Observation.rate? Observation.perSecond
  dsimp only
  by_cases h : current.timeMs ≤ previous.timeMs
  · have hle : current.timeMs.toInt ≤ previous.timeMs.toInt := Int64.le_iff_toInt_le.mp h
    have helapsed : elapsedMs current.timeMs previous.timeMs ≤ 0 := by
      unfold elapsedMs greatestMillis
      omega
    rw [if_pos h, if_pos helapsed]
  · have hlt : previous.timeMs.toInt < current.timeMs.toInt := by
      have := mt Int64.le_iff_toInt_le.mpr h
      omega
    have helapsed : elapsedMs current.timeMs previous.timeMs =
        min (greatestMillis : Int) (current.timeMs.toInt - previous.timeMs.toInt) := by
      unfold elapsedMs greatestMillis
      omega
    have hpos : ¬ min (greatestMillis : Int)
        (current.timeMs.toInt - previous.timeMs.toInt) ≤ 0 := by
      unfold greatestMillis
      omega
    rw [if_neg h, helapsed, if_neg hpos]

namespace Pass

/-- Converts a value and hands its sample, if it has one, to a sink. -/
def handOver (converter : Converter S) (sink : Sample → Act (PassState S) Unit) (nodeId : Int32)
    (now : Int64) (id : MetricId) (value : Float) : Act (PassState S) Unit := do
  match ← ask (converter.sample id value now nodeId) with
  | none => pure ()
  | some sample => sink sample

/-- What becomes of a legacy metric is decided by the value to report. -/
theorem convertLegacy_eq (converter : Converter S) (sink : Sample → Act (PassState S) Unit)
    (nodeId : Int32) (now : Int64) (metric : LegacyMetric) (p : PassState S) :
    convertLegacy converter sink nodeId now metric p =
      match (p.rates.observe metric now).2 with
      | none => (.ok (), { p with rates := (p.rates.observe metric now).1 })
      | some value =>
        handOver converter sink nodeId now metric.id value
          { p with rates := (p.rates.observe metric now).1 } := by
  unfold convertLegacy
  have hobserve : observe metric now p =
      (.ok (p.rates.observe metric now).2, { p with rates := (p.rates.observe metric now).1 }) :=
    rfl
  rw [Act.bind_apply, hobserve]
  rcases (p.rates.observe metric now).2 with _ | value
  · rfl
  · rfl

end Pass

/-- **The rate of a counter is a function of its history.**  After any calls, what the next visit of
a counter does is decided by the counter's history.  If it was never visited, or the second walk
since its most recent visit has been finished, or its time is not after that of its most recent
visit, nothing is handed on: neither the converter nor the sink is asked.  Otherwise the converter
is given the rate since the most recent visit, and the sink the sample.  Whatever becomes of it, a
visit of the counter is its new observation; a visit of anything else, and what others do, leaves
its observation as it is. -/
theorem LegacyCall.visit_counter (converter : Converter S) (s : S) (calls : List (LegacyCall S))
    (id : MetricId) :
    (∀ (sink : LegacySink S) nodeId now count,
      (visit sink nodeId now ⟨id, .counter count⟩).act converter (after converter s calls) =
        let next : PassState S :=
          { after converter s calls with
            rates := ((after converter s calls).rates.observe ⟨id, .counter count⟩ now).1 }
        match lastVisit? (historyOf id calls) with
        | none => (.ok (), next)
        | some (walks, previous) =>
          if 2 ≤ walks ∨ now ≤ previous.timeMs then (.ok (), next)
          else
            Pass.handOver converter sink.hand nodeId now id
              (previous.perSecond ⟨count, now⟩) next) ∧
    ∀ call : LegacyCall S,
      (after converter s (call :: calls)).rates.baselines.get? id =
        match call.event? id with
        | some (.visited o) => some o
        | some .walkFinished => remembered? (.walkFinished :: historyOf id calls)
        | none => (after converter s calls).rates.baselines.get? id := by
  have hrecalls := Rates.Recalls.after converter s id calls
  refine ⟨fun sink nodeId now count => ?_, fun call => ?_⟩
  · show Pass.convertLegacy converter sink.hand nodeId now ⟨id, .counter count⟩ _ = _
    rw [Pass.convertLegacy_eq]
    -- the value is the rate since the observation that is remembered
    have hvalue : ((after converter s calls).rates.observe ⟨id, .counter count⟩ now).2 =
        (remembered? (historyOf id calls)).bind (·.rate? ⟨count, now⟩) := by
      rw [← hrecalls.baseline]
      rfl
    rw [hvalue]
    unfold remembered?
    rcases lastVisit? (historyOf id calls) with _ | ⟨walks, previous⟩
    · rfl
    · dsimp only [Option.bind_some]
      by_cases hwalks : walks < 2
      · rw [if_pos hwalks, Option.bind_some, Observation.rate?_eq]
        by_cases hle : now ≤ previous.timeMs
        · rw [if_pos hle, if_pos (.inr hle)]
        · have hnot : ¬ (2 ≤ walks ∨ now ≤ previous.timeMs) := by
            rintro (h | h)
            · exact Nat.not_le_of_lt hwalks h
            · exact hle h
          rw [if_neg hle, if_neg hnot]
      · rw [if_neg hwalks, if_pos (.inl (Nat.le_of_not_lt hwalks))]
        rfl
  · have h := (hrecalls.act converter call).baseline
    show ((call.act converter (after converter s calls)).2).rates.baselines.get? id = _
    rw [h]
    rcases call.event? id with _ | ⟨o⟩ | _
    · exact hrecalls.baseline.symm
    · rfl
    · rfl

end MetricFeed
