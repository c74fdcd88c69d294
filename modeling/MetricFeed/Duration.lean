/-
MetricFeed/Duration.lean

Spans of time, counted in nanoseconds.  A point in time is a natural number: the nanoseconds since
time began.  Timers have a resolution of one millisecond, so a deadline is met at the end of the
millisecond that it lies in (`roundUpToMilli`).

A span is written in the largest of the units s, ms, µs and ns of which it holds at least one,
with as many decimals as it needs.
-/

namespace MetricFeed

/-- A span of time. -/
structure Duration where
  nanos : Nat
  deriving DecidableEq, Repr, Inhabited

/-- So many nanoseconds make a millisecond. -/
def nanosPerMilli : Nat := 1000000

/-- Times and counts of milliseconds are kept within 64 bits: the greatest of them. -/
def greatestMillis : Nat := 9223372036854775807

/-! ### Timers -/

/-- The end of the millisecond that a deadline lies in: when its timer goes off. -/
def roundUpToMilli (t : Nat) : Nat :=
  (t + (nanosPerMilli - 1)) / nanosPerMilli * nanosPerMilli

theorem le_roundUpToMilli (t : Nat) : t ≤ roundUpToMilli t := by
  unfold roundUpToMilli nanosPerMilli
  omega

theorem roundUpToMilli_lt (t : Nat) : roundUpToMilli t < t + nanosPerMilli := by
  unfold roundUpToMilli nanosPerMilli
  omega

theorem roundUpToMilli_mul (ms : Nat) :
    roundUpToMilli (ms * nanosPerMilli) = ms * nanosPerMilli := by
  unfold roundUpToMilli nanosPerMilli
  omega

namespace Duration

def ofMillis (ms : Nat) : Duration := ⟨ms * nanosPerMilli⟩

def ofSeconds (s : Nat) : Duration := ofMillis (1000 * s)

/-- The whole milliseconds in a span. -/
def wholeMillis (d : Duration) : Nat := d.nanos / nanosPerMilli

/-! ### Text -/

/-- A number with a fixed count of digits, zeros in front. -/
def paddedDigits (width n : Nat) : List Char :=
  let digits := Nat.toDigits 10 n
  List.replicate (width - digits.length) '0' ++ digits

/-- A whole number of units and a rest in parts of `10 ^ width` to a unit. -/
def inUnits (whole rest width : Nat) (unit : String) : String :=
  let decimals := ((paddedDigits width rest).reverse.dropWhile (· == '0')).reverse
  let fraction := if rest = 0 then [] else '.' :: decimals
  toString whole ++ String.ofList fraction ++ unit

/-- A span as messages show it. -/
def render (d : Duration) : String :=
  let n := d.nanos
  if 1000000000 ≤ n then inUnits (n / 1000000000) (n % 1000000000) 9 "s"
  else if 1000000 ≤ n then inUnits (n / 1000000) (n % 1000000) 6 "ms"
  else if 1000 ≤ n then inUnits (n / 1000) (n % 1000) 3 "µs"
  else inUnits n 0 0 "ns"

end Duration

end MetricFeed
