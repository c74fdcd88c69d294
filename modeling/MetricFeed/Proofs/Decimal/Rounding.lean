/-
MetricFeed/Proofs/Decimal/Rounding.lean

Rounding intervals as intervals of rational numbers, and those of different magnitudes kept apart.

An interval is computed with natural numbers over one denominator.  Here its ends are rational
numbers: `lowest`, `exact` and `highest`, all counts of quarters of the last place.  The order of
the magnitudes of floats is that by exponent and then by significand, and the interval of one ends
where that of a later one begins, or before.  Where they meet one of the two significands is odd,
and its interval is open.

Main result (`Binary.eq_of_contains`): a number rounds to one magnitude at most.
-/
import Mathlib.Algebra.Order.Field.Power
import Mathlib.Data.Rat.Cast.Order
import Mathlib.Tactic.FieldSimp
import Mathlib.Tactic.Linarith
import Mathlib.Tactic.Positivity
import Mathlib.Tactic.Ring
import MetricFeed.Decimal.Shortest

namespace MetricFeed.Decimal

/-! ### Numbers -/

/-- A whole power as the fraction of natural ones that it is computed as. -/
theorem zpow_eq_div (base : Nat) (hbase : 0 < base) (n : Int) :
    (base : ℚ) ^ n = (Nat.pow base n.toNat : Nat) / (Nat.pow base (-n).toNat : Nat) := by
  have hne : (base : ℚ) ≠ 0 := by exact_mod_cast hbase.ne'
  rcases Int.le_total 0 n with hn | hn
  · obtain ⟨k, rfl⟩ := Int.eq_ofNat_of_zero_le hn
    simp
  · obtain ⟨k, hk⟩ := Int.eq_ofNat_of_zero_le (Int.neg_nonneg_of_nonpos hn)
    obtain rfl : n = -(k : Int) := by omega
    simp

theorem ten_zpow (k : Int) :
    (10 : ℚ) ^ k = (Nat.pow 10 k.toNat : Nat) / (Nat.pow 10 (-k).toNat : Nat) := by
  have hpow := zpow_eq_div 10 (by norm_num) k
  rwa [Nat.cast_ofNat] at hpow

/-- The number that a decimal is. -/
def Digits.toRat (d : Digits) : ℚ :=
  d.digits * 10 ^ d.exponent

/-! ### Intervals -/

namespace Rounding

/-- The lower end of the interval. -/
def lowest (r : Rounding) : ℚ :=
  r.lower / r.denominator

/-- The value that the interval rounds to. -/
def exact (r : Rounding) : ℚ :=
  r.value / r.denominator

/-- The upper end of the interval. -/
def highest (r : Rounding) : ℚ :=
  r.upper / r.denominator

/-- Whether a number lies in the interval. -/
def Contains (r : Rounding) (x : ℚ) : Prop :=
  if r.closed then r.lowest ≤ x ∧ x ≤ r.highest else r.lowest < x ∧ x < r.highest

theorem Contains.between {r : Rounding} {x : ℚ} (h : r.Contains x) :
    r.lowest ≤ x ∧ x ≤ r.highest := by
  unfold Contains at h
  split at h
  · exact h
  · exact ⟨h.1.le, h.2.le⟩

/-- An end of the interval lies in it only if it is closed. -/
theorem Contains.closed_of_end {r : Rounding} {x : ℚ} (h : r.Contains x)
    (hend : x = r.lowest ∨ x = r.highest) : r.closed = true := by
  unfold Contains at h
  split at h
  · assumption
  · rcases hend with rfl | rfl
    · exact absurd h.1 (lt_irrefl _)
    · exact absurd h.2 (lt_irrefl _)

theorem contains_of_lt {r : Rounding} {x : ℚ} (hlow : r.lowest < x) (hhigh : x < r.highest) :
    r.Contains x := by
  unfold Contains
  split
  · exact ⟨hlow.le, hhigh.le⟩
  · exact ⟨hlow, hhigh⟩

/-- What the interval admits lies in it. -/
theorem admits_iff {r : Rounding} (hden : 0 < r.denominator) (candidate : Nat) (k : Int) :
    r.admits candidate k = true ↔ r.Contains (candidate * 10 ^ k) := by
  have hunit : (0 : ℚ) < (Nat.pow 10 (-k).toNat : Nat) := by
    exact_mod_cast Nat.pow_pos (by norm_num)
  have hden' : (0 : ℚ) < r.denominator := by exact_mod_cast hden
  have hpoint : (candidate : ℚ) * 10 ^ k =
      (candidate * Nat.pow 10 k.toNat : Nat) / (Nat.pow 10 (-k).toNat : Nat) := by
    rw [ten_zpow, Nat.cast_mul, mul_div_assoc]
  unfold admits Contains lowest highest
  rw [hpoint]
  simp only [div_le_div_iff₀ hden' hunit, div_le_div_iff₀ hunit hden', div_lt_div_iff₀ hden' hunit,
    div_lt_div_iff₀ hunit hden']
  split
  · simp only [Bool.and_eq_true, decide_eq_true_eq]
    exact_mod_cast Iff.rfl
  · simp only [Bool.and_eq_true, decide_eq_true_eq]
    exact_mod_cast Iff.rfl

end Rounding

/-! ### The intervals of magnitudes -/

namespace Binary

/-- Magnitudes of floats: 53 bits of significand, all of them used unless the exponent is least. -/
structure Canonical (b : Binary) : Prop where
  significand_lt : b.significand < 2 * leastNormal
  exponent_ge : -1074 ≤ b.exponent
  normal : -1074 < b.exponent → leastNormal ≤ b.significand

/-- How far the interval reaches down, in quarters of the last place. -/
def below (b : Binary) : Nat :=
  if b.significand = leastNormal ∧ -1074 < b.exponent then 1 else 2

theorem below_le_two (b : Binary) : b.below ≤ 2 := by
  unfold below
  split <;> decide

theorem rounding_denominator_pos (b : Binary) : 0 < b.rounding.denominator :=
  Nat.pow_pos (by decide)

/-- A count of quarters of the last place, over the denominator of the interval. -/
theorem quarters_div (b : Binary) (n : Nat) :
    ((n * Nat.pow 2 (b.exponent - 2).toNat : Nat) : ℚ) / b.rounding.denominator =
      n * 2 ^ (b.exponent - 2) := by
  have hpow := zpow_eq_div 2 (by norm_num) (b.exponent - 2)
  rw [Nat.cast_ofNat] at hpow
  rw [hpow, Nat.cast_mul, mul_div_assoc]
  rfl

theorem rounding_lowest (b : Binary) :
    b.rounding.lowest = (4 * b.significand - b.below : Nat) * 2 ^ (b.exponent - 2) :=
  b.quarters_div _

theorem rounding_highest (b : Binary) :
    b.rounding.highest = (4 * b.significand + 2 : Nat) * 2 ^ (b.exponent - 2) :=
  b.quarters_div _

theorem rounding_exact (b : Binary) :
    b.rounding.exact = (4 * b.significand : Nat) * 2 ^ (b.exponent - 2) :=
  b.quarters_div _

theorem rounding_closed (b : Binary) : b.rounding.closed = true ↔ b.significand % 2 = 0 :=
  decide_eq_true_iff

/-- Zero rounds to the magnitude zero. -/
theorem contains_zero {b : Binary} (h : b.significand = 0) : b.rounding.Contains 0 := by
  unfold Rounding.Contains
  rw [if_pos (b.rounding_closed.mpr (by rw [h])), rounding_lowest, rounding_highest, h,
    Nat.mul_zero, Nat.zero_sub, Nat.cast_zero, zero_mul]
  exact ⟨le_refl 0, by positivity⟩

/-- The order of magnitudes, by exponent and then by significand. -/
def Precedes (b b' : Binary) : Prop :=
  b.exponent < b'.exponent ∨ b.exponent = b'.exponent ∧ b.significand < b'.significand

/-- The interval of a magnitude ends where that of a later one begins, or before; the two do not
both have the end if they meet. -/
theorem Precedes.highest_le_lowest {b b' : Binary} (hb : b.Canonical) (hb' : b'.Canonical)
    (h : b.Precedes b') :
    b.rounding.highest ≤ b'.rounding.lowest ∧
      (b.rounding.highest = b'.rounding.lowest →
        ¬ (b.rounding.closed = true ∧ b'.rounding.closed = true)) := by
  rw [rounding_highest, rounding_lowest, rounding_closed, rounding_closed]
  have hquarter : (0 : ℚ) < 2 ^ (b.exponent - 2) := zpow_pos (by norm_num) _
  rcases h with hexp | ⟨hexp, hsig⟩
  · -- the last place of the later one is at least twice as large
    have hdouble : (2 : ℚ) * 2 ^ (b.exponent - 2) ≤ 2 ^ (b'.exponent - 2) := by
      rw [← zpow_one_add₀ (by norm_num)]
      exact zpow_le_zpow_right₀ (by norm_num) (by omega)
    have hnormal := hb'.normal (by have := hb.exponent_ge; omega)
    have hlt := hb.significand_lt
    have hcount : 4 * b.significand + 2 ≤ (4 * b'.significand - b'.below) * 2 ∧
        (4 * b.significand + 2 = (4 * b'.significand - b'.below) * 2 → b.significand % 2 ≠ 0) := by
      have hexponent := hb.exponent_ge
      unfold below leastNormal at *
      split <;> omega
    have hends : ((4 * b.significand + 2 : Nat) : ℚ) * 2 ^ (b.exponent - 2) ≤
        ((4 * b'.significand - b'.below) * 2 : Nat) * 2 ^ (b.exponent - 2) := by
      gcongr
      exact hcount.1
    have hstep : (((4 * b'.significand - b'.below) * 2 : Nat) : ℚ) * 2 ^ (b.exponent - 2) ≤
        (4 * b'.significand - b'.below : Nat) * 2 ^ (b'.exponent - 2) := by
      rw [Nat.cast_mul, mul_assoc]
      gcongr
      exact_mod_cast hdouble
    refine ⟨hends.trans hstep, fun heq hclosed => ?_⟩
    have hsame := le_antisymm hends (hstep.trans heq.ge)
    refine hcount.2 ?_ hclosed.1
    exact_mod_cast mul_right_cancel₀ hquarter.ne' hsame
  · rw [← hexp]
    have hcount : 4 * b.significand + 2 ≤ 4 * b'.significand - b'.below ∧
        (4 * b.significand + 2 = 4 * b'.significand - b'.below →
          b.significand % 2 ≠ 0 ∨ b'.significand % 2 ≠ 0) := by
      have hbelow := b'.below_le_two
      omega
    refine ⟨by gcongr; exact hcount.1, fun heq hclosed => ?_⟩
    have hsame : 4 * b.significand + 2 = 4 * b'.significand - b'.below := by
      exact_mod_cast mul_right_cancel₀ hquarter.ne' heq
    rcases hcount.2 hsame with hodd | hodd
    · exact hodd hclosed.1
    · exact hodd hclosed.2

/-- No number lies in the intervals of two magnitudes one of which precedes the other. -/
theorem Precedes.disjoint {b b' : Binary} (hb : b.Canonical) (hb' : b'.Canonical)
    (h : b.Precedes b') {x : ℚ} (hx : b.rounding.Contains x) : ¬ b'.rounding.Contains x := by
  intro hx'
  obtain ⟨hle, hmeet⟩ := h.highest_le_lowest hb hb'
  have hlow := hx.between.2
  have hhigh := hx'.between.1
  refine hmeet (by linarith) ⟨hx.closed_of_end (.inr ?_), hx'.closed_of_end (.inl ?_)⟩
  · linarith
  · linarith

/-- **A number rounds to one magnitude at most.** -/
theorem eq_of_contains {b b' : Binary} (hb : b.Canonical) (hb' : b'.Canonical) {x : ℚ}
    (hx : b.rounding.Contains x) (hx' : b'.rounding.Contains x) : b = b' := by
  by_contra hne
  have horder : b.Precedes b' ∨ b'.Precedes b := by
    unfold Precedes
    rcases b with ⟨m, e⟩
    rcases b' with ⟨m', e'⟩
    rw [mk.injEq] at hne
    dsimp only
    omega
  rcases horder with h | h
  · exact h.disjoint hb hb' hx hx'
  · exact h.disjoint hb' hb hx' hx

end Binary

end MetricFeed.Decimal
