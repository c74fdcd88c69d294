/-
MetricFeed/Decimal/Layout.lean

Writing a float with its shortest digits.  How the digits are laid out is the format's decision,
given by a `Layout`: where positional notation begins and ends, how an exponent is marked, which
way ties go and what stands for the values without digits.
-/
import MetricFeed.Decimal.Shortest

namespace MetricFeed.Decimal

/-- How a format lays out floats. -/
structure Layout where
  /-- The least power of ten of a leading digit that is written positionally. -/
  leastPositional : Int
  /-- From this power of ten of the leading digit on, an exponent is written. -/
  firstExponential : Int
  /-- What stands before the digits of an exponent that is not negative. -/
  exponentSign : String
  tie : Tie
  infinity : String
  negativeInfinity : String
  notANumber : String

/-- Digits with a point after the first `before` of them, filled up with zeros and with at least
one digit on either side. -/
def positional (digits : List Char) (before : Int) : List Char :=
  if before ≤ 0 then
    '0' :: '.' :: (List.replicate (-before).toNat '0' ++ digits)
  else
    let n := before.toNat
    if digits.length ≤ n then
      digits ++ List.replicate (n - digits.length) '0' ++ ['.', '0']
    else
      digits.take n ++ '.' :: digits.drop n

/-- One digit, the others after a point, and the exponent. -/
def exponential (sign : String) (digits : List Char) (power : Int) : List Char :=
  let mantissa :=
    match digits with
    | [] => []
    | [d] => [d]
    | d :: rest => d :: '.' :: rest
  let mark := if power < 0 then "e-" else "e" ++ sign
  mantissa ++ mark.toList ++ Nat.toDigits 10 power.natAbs

/-- The text of a decimal above zero. -/
def Layout.writeDigits (l : Layout) (d : Digits) : List Char :=
  let digits := Nat.toDigits 10 d.digits
  let power := d.exponent + digits.length - 1
  if l.leastPositional ≤ power ∧ power < l.firstExponential then
    positional digits (power + 1)
  else
    exponential l.exponentSign digits power

/-- The text of a float's magnitude. -/
def Layout.writeMagnitude (l : Layout) (b : Binary) : List Char :=
  if b.significand = 0 then ['0', '.', '0'] else l.writeDigits (shortest l.tie b)

/-- The characters of a float's text. -/
def Layout.writeChars (l : Layout) (v : Float) : List Char :=
  match Shape.ofBits v.toBits with
  | .finite negative b => (if negative then ['-'] else []) ++ l.writeMagnitude b
  | .infinite negative => (if negative then l.negativeInfinity else l.infinity).toList
  | .notANumber => l.notANumber.toList

/-- The text of a float. -/
def Layout.write (l : Layout) (v : Float) : String :=
  String.ofList (l.writeChars v)

/-- The layout of floats in messages. -/
def inMessages : Layout :=
  { leastPositional := -4
    firstExponential := 16
    exponentSign := ""
    tie := .up
    infinity := "inf"
    negativeInfinity := "-inf"
    notANumber := "NaN" }

/-- The layout of floats in JSON documents, which have no text for values without digits. -/
def inDocuments : Layout :=
  { leastPositional := -5
    firstExponential := 16
    exponentSign := "+"
    tie := .toEven
    infinity := "null"
    negativeInfinity := "null"
    notANumber := "null" }

end MetricFeed.Decimal
