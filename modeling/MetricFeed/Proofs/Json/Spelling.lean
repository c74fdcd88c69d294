/-
MetricFeed/Proofs/Json/Spelling.lean

The number that a literal spells, by its digits before and after the point and by its exponent
(`Number.magnitude`); its sign stands apart.

A text made of digits, a point, digits and perhaps an exponent is a literal of the number that these
make up (`spells_point`).  Zeros in front of the digits or behind them, and the place of the point
among them, only move the power of ten (`spelled_zeros_front`, `spelled_zeros_back`,
`spelled_take_drop`).
-/
import Mathlib.Algebra.Order.Field.Power
import Mathlib.Data.List.Induction
import Mathlib.Data.Rat.Cast.Order
import Mathlib.Tactic.Ring
import MetricFeed.Proofs.Json.RoundTrip

namespace MetricFeed.Json

open MetricFeed.Text (digitValue?)

/-! ### What literals spell -/

/-- The power of ten that an exponent stands for. -/
def exponentPower : Option (Bool × List Nat) → Int
  | none => 0
  | some (true, ds) => -(digitsValue ds : Int)
  | some (false, ds) => digitsValue ds

/-- The number that digits before and after the point and an exponent spell. -/
def spelled (whole : List Nat) (fraction : Option (List Nat))
    (exponent : Option (Bool × List Nat)) : ℚ :=
  digitsValue (whole ++ fraction.getD []) *
    10 ^ (exponentPower exponent - (fraction.getD []).length)

/-- The number that a literal spells, but for its sign. -/
def Number.magnitude (n : Number) : ℚ :=
  spelled n.whole n.fraction n.exponent

/-- Whether a text is a literal of a number, both as it stands and after a minus sign. -/
def Spells (cs : List Char) (x : ℚ) : Prop :=
  ∀ negative, ∃ n, Number.ofLiteral? ((if negative then ['-'] else []) ++ cs) = some n ∧
    n.negative = negative ∧ n.magnitude = x

/-- A text spells what its digits before the point and the parts after it do. -/
theorem spells_of_takeDigits {cs after : List Char} {d : Nat} {ds : List Nat}
    {fraction : Option (List Nat)} {exponent : Option (Bool × List Nat)}
    (htake : takeDigits cs = (d :: ds, after)) (hzero : d = 0 → ds = [])
    (hafter : readFraction? after = some (fraction, exponent)) :
    Spells cs (spelled (d :: ds) fraction exponent) := by
  obtain ⟨hplain, hminus⟩ := ofLiteral?_takeDigits htake hzero
  rw [hafter] at hplain hminus
  intro negative
  cases negative with
  | false => exact ⟨_, hplain, rfl, rfl⟩
  | true => exact ⟨_, hminus, rfl, rfl⟩

/-! ### Digits -/

theorem foldl_digits (ds : List Nat) (acc : Nat) :
    ds.foldl (fun acc d => acc * 10 + d) acc = acc * 10 ^ ds.length + digitsValue ds := by
  induction ds using List.reverseRecOn with
  | nil => simp [digitsValue]
  | append_singleton ds d ih =>
    rw [List.foldl_append, ih, digitsValue_append_digit, List.length_append, List.length_singleton,
      Nat.pow_succ]
    simp only [List.foldl_cons, List.foldl_nil]
    ring

theorem digitsValue_append (as bs : List Nat) :
    digitsValue (as ++ bs) = digitsValue as * 10 ^ bs.length + digitsValue bs := by
  unfold digitsValue
  rw [List.foldl_append]
  exact foldl_digits bs _

theorem digitsValue_replicate_zero (n : Nat) : digitsValue (List.replicate n 0) = 0 := by
  induction n with
  | zero => rfl
  | succ n ih =>
    rw [List.replicate_succ', digitsValue_append_digit, ih]

/-! ### Fractions and exponents -/

/-- Digits after a point go up to where no digit follows. -/
theorem readFraction?_point {ds : List Nat} (hten : ∀ d ∈ ds, d < 10) (hne : ds ≠ [])
    {after : List Char} (hafter : takeDigits after = ([], after))
    {exponent : Option (Bool × List Nat)} (hexp : readExponent? after = some exponent) :
    readFraction? ('.' :: (ds.map Nat.digitChar ++ after)) = some (some ds, exponent) := by
  rw [readFraction?, takeDigits_digitChars hten hafter]
  rcases ds with _ | ⟨d, ds⟩
  · exact absurd rfl hne
  · dsimp only
    rw [hexp]
    rfl

/-- An exponent may go without a sign. -/
theorem readExponent?_unsigned {cs : List Char} {d : Nat} {ds : List Nat}
    (htake : takeDigits cs = (d :: ds, [])) :
    readExponent? ('e' :: cs) = some (some (false, d :: ds)) := by
  unfold readExponent?
  show (if 'e' = 'e' ∨ 'e' = 'E' then _ else _) = _
  rw [if_pos (.inl rfl)]
  split
  rename_i negative digits hsign
  split at hsign
  · -- no digit is a sign
    cases htake
  · cases htake
  · obtain ⟨rfl, rfl⟩ := Prod.mk.inj hsign
    rw [htake]

/-- An exponent is marked, perhaps signed, and spelled by its digits. -/
theorem readExponent?_mark {mark : List Char} {negative : Bool}
    (hmark : mark = ['e', '-'] ∧ negative = true ∨
      (mark = ['e'] ∨ mark = ['e', '+']) ∧ negative = false) (n : Nat) :
    ∃ ds, digitsValue ds = n ∧
      readExponent? (mark ++ Nat.toDigits 10 n) = some (some (negative, ds)) := by
  obtain ⟨d, ds, hdigits, hten, hvalue, -⟩ := toDigits_eq_map n
  have htake : takeDigits (Nat.toDigits 10 n ++ []) = (d :: ds, []) := by
    rw [hdigits]
    exact takeDigits_digitChars hten rfl
  rw [List.append_nil] at htake
  refine ⟨d :: ds, hvalue, ?_⟩
  rcases hmark with ⟨rfl, rfl⟩ | ⟨rfl | rfl, rfl⟩
  · simp only [List.cons_append, List.nil_append, readExponent?, htake]
    rfl
  · exact readExponent?_unsigned htake
  · simp only [List.cons_append, List.nil_append, readExponent?, htake]
    rfl

/-! ### Digits with a point -/

/-- Digits, a point and digits, with or without an exponent, spell what they stand for. -/
theorem spells_point {d : Nat} {ds fs : List Nat} (hds : ∀ e ∈ d :: ds, e < 10)
    (hzero : d = 0 → ds = []) (hfs : ∀ e ∈ fs, e < 10) (hne : fs ≠ []) {after : List Char}
    (hafter : takeDigits after = ([], after)) {exponent : Option (Bool × List Nat)}
    (hexp : readExponent? after = some exponent) :
    Spells ((d :: ds).map Nat.digitChar ++ '.' :: (fs.map Nat.digitChar ++ after))
      (spelled (d :: ds) (some fs) exponent) :=
  spells_of_takeDigits (takeDigits_digitChars hds rfl) hzero
    (readFraction?_point hfs hne hafter hexp)

/-- Without a point the digits are moved by the exponent alone. -/
theorem spelled_whole (ds : List Nat) (exponent : Option (Bool × List Nat)) :
    spelled ds none exponent = digitsValue ds * 10 ^ exponentPower exponent := by
  show (digitsValue (ds ++ []) : ℚ) * 10 ^ (exponentPower exponent - 0) = _
  rw [List.append_nil, sub_zero]

/-- Zeros after the point move the digits down. -/
theorem spelled_zeros_front (n : Nat) (ds : List Nat) :
    spelled [0] (some (List.replicate n 0 ++ ds)) none =
      digitsValue ds * 10 ^ (-(n + ds.length : Nat) : Int) := by
  have hdigits : digitsValue ([0] ++ (List.replicate n 0 ++ ds)) = digitsValue ds := by
    rw [digitsValue_append, digitsValue_append, digitsValue_replicate_zero]
    simp [digitsValue]
  show (digitsValue ([0] ++ (List.replicate n 0 ++ ds)) : ℚ) *
    10 ^ ((0 : Int) - (List.replicate n 0 ++ ds).length) = _
  rw [hdigits, zero_sub, List.length_append, List.length_replicate]

/-- Zeros before the point move the digits up. -/
theorem spelled_zeros_back (n : Nat) (ds : List Nat) :
    spelled (ds ++ List.replicate n 0) (some [0]) none = digitsValue ds * 10 ^ (n : Int) := by
  show (digitsValue (ds ++ List.replicate n 0 ++ [0]) : ℚ) * 10 ^ ((0 : Int) - 1) = _
  rw [digitsValue_append, digitsValue_append, digitsValue_replicate_zero, List.length_replicate,
    zpow_natCast]
  simp [digitsValue]

/-- A point between the digits moves those after it down. -/
theorem spelled_take_drop (n : Nat) (ds : List Nat) (exponent : Option (Bool × List Nat)) :
    spelled (ds.take n) (some (ds.drop n)) exponent =
      digitsValue ds * 10 ^ (exponentPower exponent - (ds.length - n : Nat)) := by
  show (digitsValue (ds.take n ++ ds.drop n) : ℚ) *
    10 ^ (exponentPower exponent - (ds.drop n).length) = _
  rw [List.take_append_drop, List.length_drop]

end MetricFeed.Json
