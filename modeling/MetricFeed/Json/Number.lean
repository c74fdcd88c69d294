/-
MetricFeed/Json/Number.lean

Number literals: their grammar, and the integers and floats that they are read as.

A literal without fraction and exponent is an integer as long as it fits 64 bits.  Any other is
read as a float in one step: the digits are gathered into a significand of 64 bits, digits that
no longer fit are dropped, and the significand is multiplied or divided by a power of ten once.
That is exact up to 2^53 with small powers; beyond, the float may differ from the nearest one in
its last bits.
-/
import MetricFeed.Text.Numeral

namespace MetricFeed.Json

open MetricFeed.Text (digitValue?)
open MetricFeed.Text.IntegerKind (i32 i64 u64)

/-! ### Literals -/

/-- A number literal: the digits before the point, those after it, and the exponent. -/
structure Number where
  negative : Bool
  whole : List Nat
  fraction : Option (List Nat)
  exponent : Option (Bool × List Nat)
  deriving DecidableEq, Repr

/-- The digits at the start of a text, and the rest. -/
def takeDigits : List Char → List Nat × List Char
  | [] => ([], [])
  | c :: rest =>
    match digitValue? c with
    | none => ([], c :: rest)
    | some d =>
      let (ds, after) := takeDigits rest
      (d :: ds, after)

/-- The exponent part: a mark, perhaps a sign, and digits to the end. -/
def readExponent? : List Char → Option (Option (Bool × List Nat))
  | [] => some none
  | c :: rest =>
    if c = 'e' ∨ c = 'E' then
      let (negative, digits) :=
        match rest with
        | '+' :: ds => (false, ds)
        | '-' :: ds => (true, ds)
        | ds => (false, ds)
      match takeDigits digits with
      | ([], _) => none
      | (ds, []) => some (some (negative, ds))
      | _ => none
    else none

/-- The part after the digits before the point. -/
def readFraction? : List Char → Option (Option (List Nat) × Option (Bool × List Nat))
  | '.' :: rest =>
    match takeDigits rest with
    | ([], _) => none
    | (ds, after) => (readExponent? after).map fun e => (some ds, e)
  | after => (readExponent? after).map fun e => (none, e)

/-- Reads a literal: a zero in front stands alone before the point, and every point and every mark
of an exponent is followed by digits. -/
def Number.ofLiteral? (literal : List Char) : Option Number :=
  let (negative, unsigned) :=
    match literal with
    | '-' :: rest => (true, rest)
    | rest => (false, rest)
  match takeDigits unsigned with
  | ([], _) => none
  | (0 :: _ :: _, _) => none
  | (whole, after) => (readFraction? after).map fun (f, e) => ⟨negative, whole, f, e⟩

/-- Characters that number literals are made of. -/
def isNumberChar (c : Char) : Bool :=
  (digitValue? c).isSome || c == '-' || c == '+' || c == '.' || c == 'e' || c == 'E'

/-! ### Integers -/

/-- The number that decimal digits spell. -/
def digitsValue (ds : List Nat) : Nat :=
  ds.foldl (fun acc d => acc * 10 + d) 0

/-- The integer of a literal, if it is written as one and fits 64 bits.  Minus zero is none. -/
def Number.integer? (n : Number) : Option Int :=
  match n.fraction, n.exponent with
  | none, none =>
    let v : Int := digitsValue n.whole
    if n.negative then
      if 0 < v ∧ i64.least ≤ -v then some (-v) else none
    else
      if v ≤ u64.greatest then some v else none
  | _, _ => none

/-! ### Floats -/

/-- Takes digits into the significand while it fits 64 bits; the count of digits taken, and
whether some are left. -/
def gather (significand : Nat) : List Nat → Nat × Nat × List Nat
  | [] => (significand, 0, [])
  | d :: rest =>
    let next := significand * 10 + d
    if UInt64.size ≤ next then (significand, 0, d :: rest)
    else
      let (s, taken, left) := gather next rest
      (s, taken + 1, left)

/-- Divides by powers of ten that a float can hold, in steps, then multiplies or divides by the
power of ten that is left.  `none` when the number is too large for a float. -/
def scale : (fuel : Nat) → Float → Int → Option Float
  | 0, f, _ => some f
  | fuel + 1, f, exponent =>
    if exponent.natAbs ≤ 308 then
      let power := Float.ofScientific 1 false exponent.natAbs
      if 0 ≤ exponent then
        let product := f * power
        if product.isInf then none else some product
      else some (f / power)
    else if f == 0 then some f
    else if 0 ≤ exponent then none
    else scale fuel (f / Float.ofScientific 1 false 308) (exponent + 308)

/-- An exponent of 32 bits; `none` when its digits exceed them. -/
def exponentValue? (ds : List Nat) : Option Int :=
  let v : Int := digitsValue ds
  if v ≤ i32.greatest then some v else none

/-- Keeps a number within 32 bits. -/
def clamp32 (n : Int) : Int :=
  max i32.least (min i32.greatest n)

/-- The magnitude of a float, from its gathered digits and the literal's exponent. -/
def magnitude? (significand : Nat) (shift : Int) : Option (Bool × List Nat) → Option Float
  | none => scale 8 significand.toUInt64.toFloat shift
  | some (negative, ds) =>
    match exponentValue? ds with
    | some e =>
      scale 8 significand.toUInt64.toFloat (clamp32 (if negative then shift - e else shift + e))
    | none => if significand ≠ 0 ∧ ¬ negative then none else some 0

/-- The float of a literal; `none` when it is too large. -/
def Number.float? (n : Number) : Option Float :=
  let (significand, _, dropped) := gather 0 n.whole
  let shift : Int := dropped.length
  let (significand, shift) :=
    match n.fraction with
    | none => (significand, shift)
    | some ds =>
      let (s, taken, _) := gather significand ds
      (s, shift - taken)
  (magnitude? significand shift n.exponent).map fun m => if n.negative then -m else m

/-- The integer that a document is, if it is a literal of one. -/
def literalInteger? (literal : List Char) : Option Int :=
  (Number.ofLiteral? literal).bind Number.integer?

/-- The float that a literal is read as; an integer is converted. -/
def literalFloat? (literal : List Char) : Option Float :=
  (Number.ofLiteral? literal).bind Number.float?

end MetricFeed.Json
