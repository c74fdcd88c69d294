/-
MetricFeed/Proofs/Decimal/Shortest.lean

The shortest decimal of a float rounds to this float.

A grid that is finer than the rounding interval has a point in it, and if any point, then one of the
two neighbours of the value (`Rounding.isSome_offer?`).  The grid of seventeen digits is finer than
the interval of any float, as a significand has 53 bits (`Binary.grid_lt_width`).  So the search
finds a decimal with at most seventeen digits, and what it finds lies in the interval.

Main result (`Binary.contains_shortest`).
-/
import Mathlib.Data.Nat.Cast.Order.Field
import MetricFeed.Proofs.Decimal.Rounding

namespace MetricFeed.Decimal

/-! ### The leading power -/

theorem digitCount_pos (n : Nat) : 0 < digitCount n :=
  Nat.length_toDigits_pos

theorem lt_pow_digitCount (n : Nat) : n < 10 ^ digitCount n :=
  (Nat.length_toDigits_le_iff (by decide) (digitCount_pos n)).mp (Nat.le_refl _)

theorem pow_digitCount_le {n : Nat} (hn : 0 < n) : 10 ^ (digitCount n - 1) ≤ n := by
  by_contra hlt
  rcases Nat.eq_zero_or_pos (digitCount n - 1) with hone | hmore
  · rw [hone] at hlt
    omega
  · have hfewer : digitCount n ≤ digitCount n - 1 :=
      (Nat.length_toDigits_le_iff (by decide) hmore).mpr (Nat.not_le.mp hlt)
    omega

/-- A value has its leading digit below its leading power. -/
theorem pow_leadingPower_le {value denominator : Nat} (hvalue : 0 < value)
    (hden : 0 < denominator) :
    (10 : ℚ) ^ (leadingPower value denominator - 1) ≤ value / denominator := by
  unfold leadingPower
  split
  · rename_i hle
    have hcount := digitCount_pos (value / denominator)
    have hquotient : 0 < value / denominator := Nat.div_pos hle hden
    have hexp : (digitCount (value / denominator) : Int) - 1 =
        ((digitCount (value / denominator) - 1 : Nat) : Int) := by omega
    rw [hexp, zpow_natCast]
    calc (10 : ℚ) ^ (digitCount (value / denominator) - 1)
        ≤ (value / denominator : Nat) := by exact_mod_cast pow_digitCount_le hquotient
      _ ≤ value / denominator := Nat.cast_div_le
  · -- the quotient of the denominator, less one, stays below the power
    have hquotient := lt_pow_digitCount ((denominator - 1) / value)
    have hdiv := Nat.lt_mul_div_succ (denominator - 1) hvalue
    have hbound : denominator ≤ value * 10 ^ digitCount ((denominator - 1) / value) :=
      calc denominator ≤ value * ((denominator - 1) / value + 1) := by omega
        _ ≤ value * 10 ^ digitCount ((denominator - 1) / value) :=
          Nat.mul_le_mul_left value hquotient
    have hexp : (1 : Int) - digitCount ((denominator - 1) / value) - 1 =
        -(digitCount ((denominator - 1) / value) : Int) := by omega
    have hden' : (0 : ℚ) < denominator := by exact_mod_cast hden
    rw [hexp, zpow_neg, zpow_natCast, ← one_div, div_le_div_iff₀ (by positivity) hden', one_mul]
    exact_mod_cast hbound

/-! ### Neighbours on a grid -/

namespace Rounding

variable {r : Rounding} {tie : Tie} {k : Int}

/-- The value lies between its neighbours on a grid. -/
theorem floorOn_spec (hden : 0 < r.denominator) (k : Int) :
    (r.floorOn k : ℚ) * 10 ^ k ≤ r.exact ∧ r.exact < (r.floorOn k + 1 : Nat) * 10 ^ k := by
  have hunit : (0 : ℚ) < (Nat.pow 10 (-k).toNat : Nat) := by
    exact_mod_cast Nat.pow_pos (by norm_num)
  have hstep : 0 < r.denominator * Nat.pow 10 k.toNat :=
    Nat.mul_pos hden (Nat.pow_pos (by norm_num))
  have hden' : (0 : ℚ) < r.denominator := by exact_mod_cast hden
  have hle : r.floorOn k * Nat.pow 10 k.toNat * r.denominator ≤
      r.value * Nat.pow 10 (-k).toNat :=
    calc r.floorOn k * Nat.pow 10 k.toNat * r.denominator
        = r.floorOn k * (r.denominator * Nat.pow 10 k.toNat) := by ring
      _ ≤ r.value * Nat.pow 10 (-k).toNat := Nat.div_mul_le_self _ _
  have hlt : r.value * Nat.pow 10 (-k).toNat <
      (r.floorOn k + 1) * Nat.pow 10 k.toNat * r.denominator :=
    calc r.value * Nat.pow 10 (-k).toNat
        < r.denominator * Nat.pow 10 k.toNat * (r.floorOn k + 1) := Nat.lt_mul_div_succ _ hstep
      _ = (r.floorOn k + 1) * Nat.pow 10 k.toNat * r.denominator := by ring
  unfold exact
  rw [ten_zpow, mul_div_assoc', mul_div_assoc', div_le_div_iff₀ hunit hden',
    div_lt_div_iff₀ hden' hunit]
  exact ⟨by exact_mod_cast hle, by exact_mod_cast hlt⟩

/-- What is offered rounds to the value. -/
theorem contains_of_offer? (hden : 0 < r.denominator) {d : Digits}
    (h : r.offer? tie k = some d) : r.Contains d.toRat := by
  unfold offer? at h
  dsimp only at h
  have hcontains : ∀ {candidate : Nat}, r.admits candidate k = true →
      r.Contains (Digits.toRat ⟨candidate, k⟩) := fun hadmits => (admits_iff hden _ k).mp hadmits
  split at h
  · rename_i hfloor hnext
    obtain rfl := Option.some.inj h
    split
    · exact hcontains hnext
    · exact hcontains hfloor
  · rename_i hfloor _
    obtain rfl := Option.some.inj h
    exact hcontains hfloor
  · rename_i _ hnext
    obtain rfl := Option.some.inj h
    exact hcontains hnext
  · cases h

/-- A grid offers a decimal if one of the neighbours rounds to the value. -/
theorem isSome_offer?_iff :
    (r.offer? tie k).isSome = true ↔
      r.admits (r.floorOn k) k = true ∨ r.admits (r.floorOn k + 1) k = true := by
  unfold offer?
  dsimp only
  cases r.admits (r.floorOn k) k <;> cases r.admits (r.floorOn k + 1) k <;> simp

/-- A grid finer than the interval has a point in it, and a neighbour of the value is one. -/
theorem isSome_offer? (hden : 0 < r.denominator) (hlow : r.lowest < r.exact)
    (hhigh : r.exact < r.highest) (hfine : (10 : ℚ) ^ k < r.highest - r.lowest) :
    (r.offer? tie k).isSome = true := by
  obtain ⟨hfloor, hnext⟩ := floorOn_spec hden k
  rw [isSome_offer?_iff, admits_iff hden, admits_iff hden]
  by_cases hbelow : r.lowest < r.floorOn k * 10 ^ k
  · exact .inl (contains_of_lt hbelow (hfloor.trans_lt hhigh))
  · -- the next point is less than one step further than the lower end
    have hstep : ((r.floorOn k + 1 : Nat) : ℚ) * 10 ^ k = r.floorOn k * 10 ^ k + 10 ^ k := by
      push_cast
      ring
    exact .inr (contains_of_lt (hlow.trans hnext) (by linarith))

end Rounding

/-! ### Seventeen digits -/

theorem Digits.toRat_stripZeros (fuel : Nat) (d : Digits) :
    (d.stripZeros fuel).toRat = d.toRat := by
  induction fuel generalizing d with
  | zero => rfl
  | succ fuel ih =>
    unfold stripZeros
    split
    · rename_i h
      rw [ih]
      -- the last digit is a zero
      have hdigits : (d.digits : ℚ) = (d.digits / 10 : Nat) * 10 := by
        exact_mod_cast (Nat.div_mul_cancel (Nat.dvd_of_mod_eq_zero h.1)).symm
      unfold toRat
      rw [hdigits, zpow_add_one₀ (by norm_num)]
      ring
    · rfl

namespace Binary

variable {b : Binary}

theorem rounding_lowest_lt (hpos : 0 < b.significand) : b.rounding.lowest < b.rounding.exact := by
  have hbelow : 0 < b.below := by
    unfold below
    split <;> decide
  rw [rounding_lowest, rounding_exact]
  gcongr
  omega

theorem rounding_lt_highest (b : Binary) : b.rounding.exact < b.rounding.highest := by
  rw [rounding_highest, rounding_exact]
  gcongr
  omega

/-- The interval of a float is wider than the grid of seventeen digits. -/
theorem grid_lt_width (hb : b.Canonical) (hpos : 0 < b.significand) :
    (10 : ℚ) ^ (leadingPower b.rounding.value b.rounding.denominator - 17) <
      b.rounding.highest - b.rounding.lowest := by
  have hquarter : (0 : ℚ) < 2 ^ (b.exponent - 2) := zpow_pos (by norm_num) _
  have hvalue : 0 < b.rounding.value :=
    Nat.mul_pos (Nat.mul_pos (by decide) hpos) (Nat.pow_pos (by decide))
  have hlead : (10 : ℚ) ^ (leadingPower b.rounding.value b.rounding.denominator - 1) ≤
      b.rounding.exact := pow_leadingPower_le hvalue b.rounding_denominator_pos
  have hgrid : (10 : ℚ) ^ (leadingPower b.rounding.value b.rounding.denominator - 17) * 10 ^ 16 =
      10 ^ (leadingPower b.rounding.value b.rounding.denominator - 1) := by
    rw [← zpow_natCast, ← zpow_add₀ (by norm_num)]
    congr 1
    omega
  -- in quarters of the last place, a significand is less than 10 ^ 16 times the width
  have hcount : 4 * b.significand < (2 + b.below) * 10 ^ 16 := by
    have hlt := hb.significand_lt
    unfold below leastNormal at *
    split <;> omega
  have hwidth : b.rounding.highest - b.rounding.lowest =
      (2 + b.below : Nat) * 2 ^ (b.exponent - 2) := by
    have hbelow := b.below_le_two
    have hsplit : 4 * b.significand + 2 = 4 * b.significand - b.below + (2 + b.below) := by omega
    rw [rounding_highest, rounding_lowest, hsplit, Nat.cast_add, add_mul]
    ring
  have hexact : b.rounding.exact < (b.rounding.highest - b.rounding.lowest) * 10 ^ 16 := by
    rw [rounding_exact, hwidth, mul_right_comm]
    gcongr
    exact_mod_cast hcount
  linarith

/-- **The shortest decimal of a float rounds to it.** -/
theorem contains_shortest (hb : b.Canonical) (hpos : 0 < b.significand) (tie : Tie) :
    b.rounding.Contains (shortest tie b).toRat := by
  have hden := b.rounding_denominator_pos
  have hlast : (b.rounding.offer? tie
      (leadingPower b.rounding.value b.rounding.denominator - 17)).isSome = true :=
    Rounding.isSome_offer? hden (rounding_lowest_lt hpos) b.rounding_lt_highest
      (grid_lt_width hb hpos)
  unfold shortest
  dsimp only
  rw [Digits.toRat_stripZeros]
  rcases hoffer : (List.range 17).findSome? fun i => b.rounding.offer? tie
      (leadingPower b.rounding.value b.rounding.denominator - (i + 1 : Nat)) with _ | d
  · -- the grid of seventeen digits has something to offer
    have hnone : b.rounding.offer? tie (leadingPower b.rounding.value b.rounding.denominator - 17)
        = none := List.findSome?_eq_none_iff.mp hoffer 16 (by decide)
    rw [hnone] at hlast
    cases hlast
  · obtain ⟨i, -, hd⟩ := List.exists_of_findSome?_eq_some hoffer
    exact Rounding.contains_of_offer? hden hd

/-- The shortest decimal of a float above zero is above zero. -/
theorem shortest_digits_pos (hb : b.Canonical) (hpos : 0 < b.significand) (tie : Tie) :
    0 < (shortest tie b).digits := by
  rw [Nat.pos_iff_ne_zero]
  intro hzero
  have hlow := (contains_shortest hb hpos tie).between.1
  have hquarter : (0 : ℚ) < 2 ^ (b.exponent - 2) := zpow_pos (by norm_num) _
  have hends : 0 < 4 * b.significand - b.below := by
    have hbelow := b.below_le_two
    omega
  have hlowest : 0 < b.rounding.lowest := by
    rw [rounding_lowest]
    exact mul_pos (by exact_mod_cast hends) hquarter
  unfold Digits.toRat at hlow
  rw [hzero, Nat.cast_zero, zero_mul] at hlow
  exact absurd hlow (not_le.mpr hlowest)

end Binary

end MetricFeed.Decimal
