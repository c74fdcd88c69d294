/-
MetricFeed/Decimal/Binary64.lean

A finite 64-bit float taken apart into a sign and an exact binary fraction, and the interval of
real numbers that round to it.  All is computed from the 64 bits with whole numbers, so that
texts of floats can be reasoned about.
-/

namespace MetricFeed.Decimal

/-- The number `significand * 2 ^ exponent`. -/
structure Binary where
  significand : Nat
  exponent : Int
  deriving DecidableEq, Repr

/-- What the bits of a float say. -/
inductive Shape
  | finite (negative : Bool) (magnitude : Binary)
  | infinite (negative : Bool)
  | notANumber
  deriving DecidableEq, Repr

/-- The least significand of a float that is not subnormal: the power of two of 52. -/
def leastNormal : Nat := 4503599627370496

/-- Takes the bits of a float apart: a sign, 11 bits of exponent and 52 of fraction. -/
def Shape.ofBits (bits : UInt64) : Shape :=
  let n := bits.toNat
  let negative := n.testBit 63
  let exponent : Nat := n / leastNormal % 2048
  let fraction := n % leastNormal
  if exponent = 2047 then
    if fraction = 0 then .infinite negative else .notANumber
  else if exponent = 0 then .finite negative ⟨fraction, -1074⟩
  else .finite negative ⟨leastNormal + fraction, exponent - 1075⟩

/-- A fraction of whole numbers with the ends of the interval that rounds to it, all three over
one denominator. -/
structure Rounding where
  lower : Nat
  value : Nat
  upper : Nat
  denominator : Nat
  /-- Whether the ends themselves round to the value: they lie halfway between neighbours, and
  a tie goes to the even significand. -/
  closed : Bool
  deriving DecidableEq, Repr

/-- The interval of the reals that round to `b`.  It reaches halfway to the neighbours; below a
power of two the neighbour is nearer than above. -/
def Binary.rounding (b : Binary) : Rounding :=
  let m := b.significand
  let scale := b.exponent - 2
  let up := Nat.pow 2 scale.toNat
  let below := if m = leastNormal ∧ -1074 < b.exponent then 1 else 2
  { lower := (4 * m - below) * up
    value := 4 * m * up
    upper := (4 * m + 2) * up
    denominator := Nat.pow 2 (-scale).toNat
    closed := m % 2 = 0 }

end MetricFeed.Decimal
