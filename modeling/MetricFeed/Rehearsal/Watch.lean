/-
MetricFeed/Rehearsal/Watch.lean

A watch rehearses a clock alone: it holds a clock whose origin is the start of time, and the
present instant.
-/
import MetricFeed.Reporting.Clock

namespace MetricFeed.Rehearsal

/-- A clock with the present instant. -/
structure Watch where
  clock : Clock
  now : Nat := 0

namespace Watch

/-- A watch that begins at a time. -/
def startingAt (originMs : Int64) : Watch :=
  { clock := ⟨originMs, 0⟩ }

/-- The time that the watch shows, unless its clock has run out. -/
def timeMs? (w : Watch) : Option Int64 :=
  w.clock.nowMs? w.now

/-- The whole milliseconds from the origin to the instant of a time. -/
def millisUntil (w : Watch) (timeMs : Int64) : Nat :=
  (w.clock.instantAt timeMs - w.clock.origin) / nanosPerMilli

/-- The watch after some time. -/
def advance (w : Watch) (span : Duration) : Watch :=
  { w with now := w.now + span.nanos }

/-- The watch after sleep until a time, which may have passed already. -/
def sleepUntil (w : Watch) (timeMs : Int64) : Watch :=
  let wake := roundUpToMilli (w.clock.instantAt timeMs)
  if wake ≤ w.now then w else { w with now := jumpTo w.now wake }

end Watch

end MetricFeed.Rehearsal
