/-
MetricFeed/Reporting/Clock.lean

A clock that tells milliseconds of wall-clock time, derived from the time that has passed since an
anchor.  Deadlines in milliseconds map back onto instants; a deadline before the anchor maps to the
anchor, and one too far away to about thirty years after it.
-/
import MetricFeed.Duration

namespace MetricFeed

/-- A clock that showed `originMs` at the instant `origin`. -/
structure Clock where
  originMs : Int64
  origin : Nat
  deriving DecidableEq, Inhabited

namespace Clock

/-- Stands for all deadlines that are further away. -/
def farFuture : Duration := .ofSeconds (86400 * 365 * 30)

/-- The milliseconds that have passed since the clock's origin, counted on 64 bits. -/
def elapsedMs (c : Clock) (now : Nat) : Int64 :=
  Int64.ofNat ((now - c.origin) / nanosPerMilli)

/-- The time that the clock shows at an instant, unless it has run past the last time that fits in
64 bits. -/
def nowMs? (c : Clock) (now : Nat) : Option Int64 :=
  let time := c.originMs.toInt + (c.elapsedMs now).toInt
  if -(greatestMillis : Int) - 1 ≤ time && time ≤ greatestMillis then some (Int64.ofInt time)
  else none

/-- What a reader of a clock that has run out panics with. -/
def runOut : String := "attempt to add with overflow"

/-- The milliseconds from the clock's origin to a time, none before it, kept within 64 bits. -/
def offsetMs (c : Clock) (timeMs : Int64) : Nat :=
  (min (greatestMillis : Int) (timeMs.toInt - c.originMs.toInt)).toNat

/-- The instant at which the clock shows a time. -/
def instantAt (c : Clock) (timeMs : Int64) : Nat :=
  c.origin + min (c.offsetMs timeMs * nanosPerMilli) farFuture.nanos

theorem origin_le_instantAt (c : Clock) (t : Int64) : c.origin ≤ c.instantAt t :=
  Nat.le_add_right _ _

end Clock

/-- The time after an interval, kept within 64 bits. -/
def addMs (t : Int64) (ms : Nat) : Int64 :=
  Int64.ofInt (min (greatestMillis : Int) (t.toInt + ms))

/-- The instant to which time jumps when nothing is to be done before the timer `wake`: time
moves by whole milliseconds. -/
def jumpTo (now wake : Nat) : Nat :=
  now + (wake - now / nanosPerMilli * nanosPerMilli)

end MetricFeed
