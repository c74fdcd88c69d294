/-
MetricFeed/Proofs/Reporting/Clock.lean

What a clock shows, in whole numbers.  Up to the last time that fits in 64 bits a clock shows its
first time and the whole milliseconds since its origin (`Clock.toInt_of_nowMs?`).  A deadline maps
to an instant from the origin on and no later than thirty years after it (`Clock.instantAt_eq`); in
between, the clock shows just this deadline when its timer goes off (`Clock.millisAt_wake`).
-/
import MetricFeed.Reporting.Clock

namespace MetricFeed

theorem toInt_le_greatestMillis (t : Int64) : t.toInt ≤ greatestMillis := by
  have ht := t.toInt_lt
  unfold greatestMillis
  omega

/-- Deadlines are kept within 64 bits. -/
theorem toInt_addMs_eq_min (t : Int64) (ms : Nat) :
    (addMs t ms).toInt = min (greatestMillis : Int) (t.toInt + ms) := by
  have ht := t.le_toInt
  have hbound : min (greatestMillis : Int) (t.toInt + ms) ≤ greatestMillis := Int.min_le_left _ _
  unfold addMs
  unfold greatestMillis at hbound ⊢
  apply Int64.toInt_ofInt_of_le
  · omega
  · omega

theorem toInt_addMs {t : Int64} {ms : Nat} (h : t.toInt + ms ≤ greatestMillis) :
    (addMs t ms).toInt = t.toInt + ms := by
  rw [toInt_addMs_eq_min, Int.min_eq_right h]

namespace Clock

variable {c : Clock} {now : Nat} {t : Int64}

/-! ### Readings -/

/-- The whole milliseconds that have passed since the clock's origin. -/
def millisAt (c : Clock) (now : Nat) : Nat :=
  (now - c.origin) / nanosPerMilli

@[simp] theorem millisAt_origin_add (c : Clock) (elapsed : Nat) :
    c.millisAt (c.origin + elapsed) = elapsed / nanosPerMilli := by
  unfold millisAt
  rw [Nat.add_sub_cancel_left]

theorem millisAt_mono {now later : Nat} (h : now ≤ later) : c.millisAt now ≤ c.millisAt later :=
  Nat.div_le_div_right (Nat.sub_le_sub_right h _)

theorem toInt_elapsedMs (hle : c.millisAt now ≤ greatestMillis) :
    (c.elapsedMs now).toInt = c.millisAt now :=
  Int64.toInt_ofNat_of_lt (Nat.lt_of_le_of_lt hle (by decide))

/-- A clock shows its first time and the milliseconds that have been counted since. -/
theorem toInt_eq_add_elapsedMs (h : c.nowMs? now = some t) :
    t.toInt = c.originMs.toInt + (c.elapsedMs now).toInt := by
  unfold nowMs? at h
  dsimp only at h
  split at h
  · rename_i hrange
    cases h
    simp only [Bool.and_eq_true, decide_eq_true_eq] at hrange
    unfold greatestMillis at hrange
    apply Int64.toInt_ofInt_of_le <;> omega
  · cases h

/-- A clock that has not run out shows its first time and what has passed since. -/
theorem toInt_of_nowMs? (h : c.nowMs? now = some t) (hle : c.millisAt now ≤ greatestMillis) :
    t.toInt = c.originMs.toInt + c.millisAt now := by
  rw [toInt_eq_add_elapsedMs h, toInt_elapsedMs hle]

/-- A clock can be read as long as its time fits in 64 bits. -/
theorem exists_nowMs? (hle : c.millisAt now ≤ greatestMillis)
    (h : c.originMs.toInt + c.millisAt now ≤ greatestMillis) : ∃ t, c.nowMs? now = some t := by
  have horigin := c.originMs.le_toInt
  unfold nowMs?
  rw [toInt_elapsedMs hle]
  unfold greatestMillis at h ⊢
  exact ⟨_, if_pos (by simp only [Bool.and_eq_true, decide_eq_true_eq]; omega)⟩

/-- A clock cannot be read exactly if its time does not fit in 64 bits. -/
theorem nowMs?_eq_none_iff (hle : c.millisAt now ≤ greatestMillis) :
    c.nowMs? now = none ↔ (greatestMillis : Int) < c.originMs.toInt + c.millisAt now := by
  constructor
  · intro hnone
    apply Int.lt_of_not_ge
    intro hfits
    obtain ⟨t, ht⟩ := exists_nowMs? hle hfits
    rw [hnone] at ht
    cases ht
  · intro hover
    cases hclock : c.nowMs? now with
    | none => rfl
    | some t =>
      have hshown := toInt_of_nowMs? hclock hle
      have hbound := toInt_le_greatestMillis t
      omega

/-! ### Instants of deadlines -/

/-- The instant of a deadline: not before the origin, and no later than thirty years after it. -/
theorem instantAt_eq (c : Clock) (t : Int64) :
    c.instantAt t = c.origin +
      min (t.toInt - c.originMs.toInt).toNat farFuture.wholeMillis * nanosPerMilli := by
  have hwhole : farFuture.wholeMillis = 946080000000 := rfl
  have hnanos : farFuture.nanos = 946080000000 * nanosPerMilli := rfl
  unfold instantAt offsetMs
  rw [hwhole, hnanos, Nat.mul_min_mul_right]
  unfold greatestMillis
  congr 2
  omega

/-- The instant of a deadline that is near enough. -/
theorem instantAt_addMs {ms : Nat} (h : c.nowMs? now = some t)
    (hfar : c.millisAt now + ms ≤ farFuture.wholeMillis) (hms : t.toInt + ms ≤ greatestMillis) :
    c.instantAt (addMs t ms) = c.origin + (c.millisAt now + ms) * nanosPerMilli := by
  have hwhole : farFuture.wholeMillis = 946080000000 := rfl
  have ht := toInt_of_nowMs? h (by unfold greatestMillis; omega)
  rw [instantAt_eq, toInt_addMs hms, ht]
  congr 2
  omega

/-- A timer goes off in the millisecond of its deadline. -/
theorem millisAt_roundUpToMilli (c : Clock) (ms : Nat) :
    c.millisAt (roundUpToMilli (c.origin + ms * nanosPerMilli)) = ms := by
  have hle := le_roundUpToMilli (c.origin + ms * nanosPerMilli)
  have hlt := roundUpToMilli_lt (c.origin + ms * nanosPerMilli)
  generalize roundUpToMilli (c.origin + ms * nanosPerMilli) = wake at hle hlt
  unfold millisAt nanosPerMilli at *
  omega

/-- The timer of a deadline goes off while the clock shows the deadline. -/
theorem millisAt_wake {ms : Nat} (h : c.nowMs? now = some t)
    (hfar : c.millisAt now + ms ≤ farFuture.wholeMillis) (hms : t.toInt + ms ≤ greatestMillis) :
    c.millisAt (roundUpToMilli (c.instantAt (addMs t ms))) = c.millisAt now + ms := by
  rw [instantAt_addMs h hfar hms, millisAt_roundUpToMilli]

end Clock

end MetricFeed
