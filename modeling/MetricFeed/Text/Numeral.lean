/-
MetricFeed/Text/Numeral.lean

Reading a decimal integer of a given width.  A plus sign is always allowed, a minus sign only for
the signed kinds, and at least one digit must follow.  The digits are read from the left and the
first fault is the answer: a character that is no digit, or a digit with which the number leaves
the range of its kind.
-/

namespace MetricFeed.Text

/-! ### Kinds of integers and faults -/

/-- A range of integers: two's complement of so many bits, or from zero to the largest number of
so many bits. -/
structure IntegerKind where
  signed : Bool
  bits : Nat
  deriving DecidableEq, Repr

namespace IntegerKind

def i64 : IntegerKind := ⟨true, 64⟩
def i16 : IntegerKind := ⟨true, 16⟩
def i32 : IntegerKind := ⟨true, 32⟩
def u16 : IntegerKind := ⟨false, 16⟩
def u32 : IntegerKind := ⟨false, 32⟩
def u64 : IntegerKind := ⟨false, 64⟩

/-- The least integer of the kind. -/
def least (k : IntegerKind) : Int :=
  if k.signed then -(Nat.pow 2 (k.bits - 1) : Int) else 0

/-- The greatest integer of the kind. -/
def greatest (k : IntegerKind) : Int :=
  (Nat.pow 2 (if k.signed then k.bits - 1 else k.bits) : Int) - 1

end IntegerKind

/-- Why a text is not an integer of the wanted kind. -/
inductive NumeralFault
  | empty
  | invalidDigit
  | tooLarge
  | tooSmall
  deriving DecidableEq, Repr

/-- The wording of a fault. -/
def NumeralFault.message : NumeralFault → String
  | .empty => "cannot parse integer from empty string"
  | .invalidDigit => "invalid digit found in string"
  | .tooLarge => "number too large to fit in target type"
  | .tooSmall => "number too small to fit in target type"

/-! ### Reading -/

/-- The value of a decimal digit. -/
def digitValue? (c : Char) : Option Nat :=
  if '0' ≤ c ∧ c ≤ '9' then some (c.toNat - '0'.toNat) else none

/-- Reads digits upward from `acc`. -/
def readUpward (greatest : Int) (acc : Int) : List Char → Except NumeralFault Int
  | [] => .ok acc
  | c :: rest =>
    match digitValue? c with
    | none => .error .invalidDigit
    | some d =>
      let next := acc * 10 + d
      if greatest < next then .error .tooLarge else readUpward greatest next rest

/-- Reads digits downward from `acc`. -/
def readDownward (least : Int) (acc : Int) : List Char → Except NumeralFault Int
  | [] => .ok acc
  | c :: rest =>
    match digitValue? c with
    | none => .error .invalidDigit
    | some d =>
      let next := acc * 10 - d
      if next < least then .error .tooSmall else readDownward least next rest

/-- Reads an integer of kind `k` from the characters of a text. -/
def readIntegerChars (k : IntegerKind) : List Char → Except NumeralFault Int
  | [] => .error .empty
  | ['+'] => .error .invalidDigit
  | ['-'] => .error .invalidDigit
  | '+' :: digits => readUpward k.greatest 0 digits
  | '-' :: digits =>
    if k.signed then readDownward k.least 0 digits else .error .invalidDigit
  | digits => readUpward k.greatest 0 digits

/-- Reads an integer of kind `k`. -/
def readInteger (k : IntegerKind) (s : String) : Except NumeralFault Int :=
  readIntegerChars k s.toList

/-- Reads a truth value: one of the two words, in lower case. -/
def readBool (s : String) : Option Bool :=
  if s = "true" then some true else if s = "false" then some false else none

end MetricFeed.Text
