/-
MetricFeed/Proofs/Reporting/Deadlines.lean

Readings of a clock and instants of deadlines belong together: as long as no reading overflows
(`Clock.InRange`), the instant of a deadline is reached exactly when the clock shows the deadline,
or at once if the clock started no earlier (`Clock.instantAt_le_iff`).  Hence who sleeps until the
instant of a deadline never wakes up before it, and never after it has been shown.

This holds of all deadlines up to thirty years after the origin (`Clock.Near`), where the instants
are not capped.

Main result: `Clock.deadline_adjunction`.
-/
import MetricFeed.Proofs.Reporting.Clock

namespace MetricFeed.Clock

variable {c : Clock} {now elapsed : Nat} {t t' shown : Int64}

/-! ### Readings that do not overflow -/

/-- A reading overflows nowhere: neither the milliseconds since the origin nor the time that is
shown are too great for 64 bits. -/
structure InRange (c : Clock) (now : Nat) : Prop where
  elapsed : c.millisAt now ≤ greatestMillis
  shown : c.originMs.toInt + c.millisAt now ≤ greatestMillis

/-- A reading shows the first time and the whole milliseconds since exactly if it does not
overflow. -/
theorem nowMs?_exact_iff :
    (∃ shown, c.nowMs? now = some shown ∧
        shown.toInt = c.originMs.toInt + c.millisAt now) ↔ c.InRange now := by
  constructor
  · rintro ⟨shown, hread, hexact⟩
    have hcounted := toInt_eq_add_elapsedMs hread
    have helapsed := toInt_le_greatestMillis (c.elapsedMs now)
    have hshown := toInt_le_greatestMillis shown
    constructor
    · -- the count of milliseconds is exact as well
      omega
    · omega
  · intro h
    obtain ⟨shown, hread⟩ := exists_nowMs? h.elapsed h.shown
    exact ⟨shown, hread, toInt_of_nowMs? hread h.elapsed⟩

/-! ### Deadlines that are near enough -/

/-- A deadline is no later than thirty years after the origin: its instant is not capped. -/
def Near (c : Clock) (t : Int64) : Prop :=
  t.toInt - c.originMs.toInt ≤ farFuture.wholeMillis

theorem instantAt_of_near (h : c.Near t) :
    c.instantAt t = c.origin + (t.toInt - c.originMs.toInt).toNat * nanosPerMilli := by
  unfold Near at h
  rw [instantAt_eq, Nat.min_eq_left (by omega)]

/-- The instant of a near deadline is reached when enough whole milliseconds have passed. -/
theorem instantAt_le_iff_millisAt (h : c.Near t) :
    c.instantAt t ≤ c.origin + elapsed ↔
      (t.toInt - c.originMs.toInt).toNat ≤ c.millisAt (c.origin + elapsed) := by
  rw [instantAt_of_near h, Nat.add_le_add_iff_left, millisAt_origin_add,
    Nat.le_div_iff_mul_le (by decide)]

/-- **The instant of a near deadline is reached exactly when the clock shows the deadline**, or at
once if the clock started no earlier. -/
theorem instantAt_le_iff (h : c.Near t)
    (hshown : shown.toInt = c.originMs.toInt + c.millisAt (c.origin + elapsed)) :
    c.instantAt t ≤ c.origin + elapsed ↔ t ≤ shown ∨ t ≤ c.originMs := by
  rw [instantAt_le_iff_millisAt h, Int64.le_iff_toInt_le, Int64.le_iff_toInt_le, hshown]
  omega

/-! ### Readings at the instant of a deadline -/

theorem millisAt_instantAt (h : c.Near t) :
    c.millisAt (c.instantAt t) = (t.toInt - c.originMs.toInt).toNat := by
  rw [instantAt_of_near h, millisAt_origin_add, Nat.mul_div_cancel _ (by decide)]

theorem toInt_max (t t' : Int64) : (max t t').toInt = max t.toInt t'.toInt := by
  show (if t ≤ t' then t' else t).toInt = max t.toInt t'.toInt
  by_cases h : t ≤ t'
  · rw [if_pos h]
    rw [Int64.le_iff_toInt_le] at h
    omega
  · rw [if_neg h]
    rw [Int64.le_iff_toInt_le] at h
    omega

theorem inRange_instantAt (h : c.Near t) : c.InRange (c.instantAt t) := by
  have hwhole : farFuture.wholeMillis = 946080000000 := rfl
  have hdeadline := toInt_le_greatestMillis t
  have horigin := toInt_le_greatestMillis c.originMs
  unfold Near at h
  constructor
  · rw [millisAt_instantAt h]
    unfold greatestMillis
    omega
  · rw [millisAt_instantAt h]
    omega

/-- **At the instant of a near deadline the clock shows the deadline**, or its first time if this is
later. -/
theorem nowMs?_instantAt (h : c.Near t) : c.nowMs? (c.instantAt t) = some (max t c.originMs) := by
  obtain ⟨shown, hread, hshown⟩ := nowMs?_exact_iff.mpr (inRange_instantAt h)
  rw [millisAt_instantAt h] at hshown
  rw [hread, Option.some.injEq]
  apply Int64.toInt_inj.mp
  rw [hshown, toInt_max]
  omega

/-! ### The main result -/

/-- Later deadlines have no earlier instants, whether near or not. -/
theorem instantAt_mono (h : t ≤ t') : c.instantAt t ≤ c.instantAt t' := by
  rw [Int64.le_iff_toInt_le] at h
  rw [instantAt_eq, instantAt_eq]
  apply Nat.add_le_add_left
  apply Nat.mul_le_mul_right
  omega

/-- **Instants of deadlines and readings are adjoint.**

* A reading that does not overflow is one that shows the clock's first time and the whole
  milliseconds since.
* At every time for which it does not overflow, the instant of a near deadline is reached if and
  only if the clock shows the deadline or later, or started no earlier.
* Read exactly at the instant of a near deadline, the clock shows the deadline or its first time,
  whichever is later.
* Instants of deadlines are monotone, and never before the origin, over all deadlines. -/
theorem deadline_adjunction (c : Clock) :
    (∀ elapsed,
      c.InRange (c.origin + elapsed) ↔
        ∃ shown, c.nowMs? (c.origin + elapsed) = some shown ∧
          shown.toInt = c.originMs.toInt + (elapsed / nanosPerMilli : Nat)) ∧
    (∀ elapsed, c.InRange (c.origin + elapsed) →
      ∃ shown, c.nowMs? (c.origin + elapsed) = some shown ∧
        ∀ t : Int64, t.toInt - c.originMs.toInt ≤ farFuture.wholeMillis →
          (c.instantAt t ≤ c.origin + elapsed ↔ t ≤ shown ∨ t ≤ c.originMs)) ∧
    (∀ t : Int64, t.toInt - c.originMs.toInt ≤ farFuture.wholeMillis →
      c.nowMs? (c.instantAt t) = some (max t c.originMs)) ∧
    (∀ t t' : Int64, t ≤ t' → c.instantAt t ≤ c.instantAt t') ∧
    ∀ t, c.origin ≤ c.instantAt t := by
  refine ⟨fun elapsed => ?_, fun elapsed hrange => ?_, fun t hnear => nowMs?_instantAt hnear,
    fun t t' hle => instantAt_mono hle, c.origin_le_instantAt⟩
  · rw [← millisAt_origin_add]
    exact nowMs?_exact_iff.symm
  · obtain ⟨shown, hread, hshown⟩ := nowMs?_exact_iff.mpr hrange
    exact ⟨shown, hread, fun t hnear => instantAt_le_iff hnear hshown⟩

/-- A clock that starts before time zero, read within a millisecond. -/
theorem deadline_adjunction_of_negative :
    let c : Clock := { originMs := -3, origin := 250000 }
    c.InRange (c.origin + 4999999) ∧
      (4 : Int64).toInt - c.originMs.toInt ≤ farFuture.wholeMillis ∧
      c.instantAt 1 ≤ c.origin + 4999999 ∧ ¬ c.instantAt 2 ≤ c.origin + 4999999 ∧
      c.nowMs? (c.instantAt 4) = some 4 ∧ c.instantAt 4 ≤ c.instantAt 5 := by
  intro c
  have hrange : c.InRange (c.origin + 4999999) := ⟨by decide, by decide⟩
  obtain ⟨-, hadjoint, hread, hmono, -⟩ := deadline_adjunction c
  obtain ⟨shown, hshown, hreached⟩ := hadjoint 4999999 hrange
  have hone : shown = 1 := Option.some.inj (hshown.symm.trans (by decide))
  subst hone
  have hfour : (4 : Int64).toInt - c.originMs.toInt ≤ farFuture.wholeMillis := by decide
  refine ⟨hrange, hfour, ?_, ?_, hread 4 hfour, hmono 4 5 (by decide)⟩
  · exact (hreached 1 (by decide)).mpr (by decide)
  · intro hle
    exact absurd ((hreached 2 (by decide)).mp hle) (by decide)

end MetricFeed.Clock
