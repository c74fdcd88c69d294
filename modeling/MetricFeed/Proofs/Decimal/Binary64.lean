/-
MetricFeed/Proofs/Decimal/Binary64.lean

Finite floats are their signs and magnitudes.

* `exists_ofBits_eq_finite` : a float that is finite has a sign and a magnitude;
* `Shape.canonical_of_ofBits` : the magnitude is canonical;
* `Shape.ofBits_inj`, `eq_of_toBits_eq` : the two determine the bits, and the bits the float.
-/
import MetricFeed.Proofs.Decimal.Rounding

namespace MetricFeed.Decimal

/-! ### Bits -/

namespace Shape

variable {bits bits' : UInt64} {negative : Bool} {b : Binary}

/-- What the bits of a finite float say: their exponent is not the greatest, and with the least one
the leading bit of the significand is not implied. -/
theorem ofBits_eq_finite (h : ofBits bits = .finite negative b) :
    negative = bits.toNat.testBit 63 ∧
      (bits.toNat / leastNormal % 2048 = 0 ∧ b.significand = bits.toNat % leastNormal ∧
          b.exponent = -1074 ∨
        bits.toNat / leastNormal % 2048 ≠ 0 ∧ bits.toNat / leastNormal % 2048 ≠ 2047 ∧
          b.significand = leastNormal + bits.toNat % leastNormal ∧
          b.exponent = (bits.toNat / leastNormal % 2048 : Nat) - 1075) := by
  unfold ofBits at h
  dsimp only at h
  split at h
  · split at h <;> cases h
  · rename_i hgreatest
    split at h
    · rename_i hleast
      obtain ⟨rfl, rfl⟩ := finite.inj h
      exact ⟨rfl, .inl ⟨hleast, rfl, rfl⟩⟩
    · rename_i hleast
      obtain ⟨rfl, rfl⟩ := finite.inj h
      exact ⟨rfl, .inr ⟨hleast, hgreatest, rfl, rfl⟩⟩

/-- The magnitude of a finite float is canonical. -/
theorem canonical_of_ofBits (h : ofBits bits = .finite negative b) : b.Canonical := by
  obtain ⟨-, hfields⟩ := ofBits_eq_finite h
  unfold leastNormal at hfields
  refine ⟨?_, ?_, fun hnormal => ?_⟩
  · unfold leastNormal
    omega
  · omega
  · unfold leastNormal
    omega

/-- Bits with one sign and one magnitude are the same. -/
theorem ofBits_inj (h : ofBits bits = .finite negative b) (h' : ofBits bits' = .finite negative b) :
    bits = bits' := by
  obtain ⟨hsign, hfields⟩ := ofBits_eq_finite h
  obtain ⟨hsign', hfields'⟩ := ofBits_eq_finite h'
  have hlt := bits.toNat_lt
  have hlt' := bits'.toNat_lt
  rw [hsign', Nat.testBit_eq_decide_div_mod_eq, Nat.testBit_eq_decide_div_mod_eq,
    decide_eq_decide] at hsign
  unfold leastNormal at hfields hfields'
  -- sign, exponent and fraction make up all of the 64 bits
  apply UInt64.toNat_inj.mp
  omega

end Shape

/-! ### Floats -/

/-- Floats of the same bits are the same. -/
theorem eq_of_toBits_eq {v v' : Float} (h : v.toBits = v'.toBits) : v = v' := by
  rcases v with ⟨⟨bits, hvalid⟩⟩
  rcases v' with ⟨⟨bits', hvalid'⟩⟩
  obtain rfl : bits = bits' := h
  rfl

/-- The exponent of a finite float is not the greatest. -/
theorem exponent_ne_of_isFinite {v : Float} (h : v.isFinite = true) :
    v.toBits.toNat / leastNormal % 2048 ≠ 2047 := by
  intro hexp
  have hvec : @Float.Model.UnpackedFloat.unpackExponent .binary64 v.toBits.toBitVec = -1#11 := by
    apply BitVec.eq_of_toNat_eq
    show (BitVec.cast _ (BitVec.extractLsb 62 52 v.toBits.toBitVec)).toNat = _
    rw [BitVec.toNat_cast, BitVec.extractLsb_toNat, Nat.shiftRight_eq_div_pow]
    exact hexp
  have hunpack : (Float.Model.UnpackedFloat.unpack .binary64 v.toBits.toBitVec).isFinite = true := h
  unfold Float.Model.UnpackedFloat.unpack at hunpack
  dsimp only at hunpack
  rw [if_pos hvec] at hunpack
  split at hunpack <;> cases hunpack

/-- A finite float has a sign and a magnitude. -/
theorem exists_ofBits_eq_finite {v : Float} (h : v.isFinite = true) :
    ∃ negative b, Shape.ofBits v.toBits = .finite negative b := by
  unfold Shape.ofBits
  dsimp only
  rw [if_neg (exponent_ne_of_isFinite h)]
  split
  · exact ⟨_, _, rfl⟩
  · exact ⟨_, _, rfl⟩

end MetricFeed.Decimal
