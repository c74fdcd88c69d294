/-
MetricFeed/Decimal/Shortest.lean

The shortest decimal that reads back as a given float, and of the shortest the nearest.

For one digit, two digits and so on the two neighbours of the value on the grid of decimals with
that many digits are looked at; the first grid with a neighbour in the float's rounding interval
decides, and of two such neighbours the nearer one.  If any point of a grid lies in the interval,
so does a neighbour of the value, hence no shorter decimal reads back.  Seventeen digits always
suffice.
-/
import MetricFeed.Decimal.Binary64

namespace MetricFeed.Decimal

/-- The decimal `digits * 10 ^ exponent`. -/
structure Digits where
  digits : Nat
  exponent : Int
  deriving DecidableEq, Repr

/-- Which neighbour is taken when the value lies halfway between the two. -/
inductive Tie
  | toEven
  | up
  deriving DecidableEq, Repr

/-- The count of decimal digits of a number. -/
def digitCount (n : Nat) : Nat :=
  (Nat.toDigits 10 n).length

/-- The power `p` with `10 ^ (p - 1) ≤ value / denominator < 10 ^ p`, for a value above zero. -/
def leadingPower (value denominator : Nat) : Int :=
  if denominator ≤ value then digitCount (value / denominator)
  else 1 - digitCount ((denominator - 1) / value)

/-- Whether `candidate * 10 ^ k` rounds to the value. -/
def Rounding.admits (r : Rounding) (candidate : Nat) (k : Int) : Bool :=
  let point := candidate * Nat.pow 10 k.toNat * r.denominator
  let unit := Nat.pow 10 (-k).toNat
  if r.closed then r.lower * unit ≤ point && point ≤ r.upper * unit
  else r.lower * unit < point && point < r.upper * unit

/-- The greatest `candidate` with `candidate * 10 ^ k` at most the value. -/
def Rounding.floorOn (r : Rounding) (k : Int) : Nat :=
  r.value * Nat.pow 10 (-k).toNat / (r.denominator * Nat.pow 10 k.toNat)

/-- Whether of the neighbours `candidate` and `candidate + 1` on the grid of `10 ^ k` the upper
one is taken. -/
def Rounding.prefersUpper (r : Rounding) (tie : Tie) (candidate : Nat) (k : Int) : Bool :=
  let twice := 2 * (r.value * Nat.pow 10 (-k).toNat)
  let middle := (2 * candidate + 1) * (r.denominator * Nat.pow 10 k.toNat)
  if twice = middle then
    match tie with
    | .toEven => candidate % 2 = 1
    | .up => true
  else middle < twice

/-- The decimal that the grid of `10 ^ k` offers, if a neighbour on it rounds to the value. -/
def Rounding.offer? (r : Rounding) (tie : Tie) (k : Int) : Option Digits :=
  let candidate := r.floorOn k
  match r.admits candidate k, r.admits (candidate + 1) k with
  | true, true => some ⟨if r.prefersUpper tie candidate k then candidate + 1 else candidate, k⟩
  | true, false => some ⟨candidate, k⟩
  | false, true => some ⟨candidate + 1, k⟩
  | false, false => none

/-- Moves zeros at the end of the digits into the exponent. -/
def Digits.stripZeros : (fuel : Nat) → Digits → Digits
  | 0, d => d
  | fuel + 1, d =>
    if d.digits % 10 = 0 ∧ d.digits ≠ 0 then stripZeros fuel ⟨d.digits / 10, d.exponent + 1⟩
    else d

/-- The shortest decimal that reads back as `b`, for `b` above zero. -/
def shortest (tie : Tie) (b : Binary) : Digits :=
  let r := b.rounding
  let p := leadingPower r.value r.denominator
  let offer := (List.range 17).findSome? fun i => r.offer? tie (p - (i + 1 : Nat))
  (offer.getD ⟨r.floorOn (p - 17), p - 17⟩).stripZeros 20

end MetricFeed.Decimal
