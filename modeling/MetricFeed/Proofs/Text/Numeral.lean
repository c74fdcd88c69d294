/-
MetricFeed/Proofs/Text/Numeral.lean

The integer that a text denotes: decimal digits, at least one, perhaps with a sign in front
(`Text.Denotes`).  Zeros in front do not matter, and a text denotes one integer at most.

The reader takes the digits from the left and gives up at the first with which the number leaves
its range.  Numbers only grow away from zero as digits are read, so it gives up exactly on those
that end outside.

Main result (`Text.readInteger_eq_ok_iff`): a text is read as the integer that it denotes, if this
lies in the range of the wanted kind.
-/
import Mathlib.Data.List.Basic
import MetricFeed.Text.Numeral

namespace MetricFeed.Text

/-! ### What a text denotes -/

/-- At least one decimal digit, and nothing else. -/
structure IsDigits (cs : List Char) : Prop where
  ne_nil : cs ≠ []
  digits : ∀ c ∈ cs, c.isDigit = true

/-- Characters that denote an integer. -/
inductive DenotesChars : List Char → Int → Prop
  | unsigned {cs : List Char} : IsDigits cs → DenotesChars cs (Nat.ofDigitChars 10 cs 0)
  | plus {cs : List Char} : IsDigits cs → DenotesChars ('+' :: cs) (Nat.ofDigitChars 10 cs 0)
  | minus {cs : List Char} :
      IsDigits cs → DenotesChars ('-' :: cs) (-(Nat.ofDigitChars 10 cs 0 : Int))

/-- A text denotes an integer. -/
def Denotes (s : String) (n : Int) : Prop := DenotesChars s.toList n

/-! ### Digits one by one -/

theorem digitValue?_of_isDigit {c : Char} (h : c.isDigit = true) :
    digitValue? c = some (c.toNat - '0'.toNat) := by
  unfold digitValue?
  rw [if_pos]
  simpa [Char.isDigit, Char.le_def, UInt32.le_iff_toNat_le] using h

theorem digitValue?_of_not_isDigit {c : Char} (h : c.isDigit = false) : digitValue? c = none := by
  unfold digitValue?
  rw [if_neg]
  simpa [Char.isDigit, Char.le_def, UInt32.le_iff_toNat_le] using h

/-- Digits make a number no smaller. -/
theorem le_ofDigitChars (cs : List Char) (acc : Nat) : acc ≤ Nat.ofDigitChars 10 cs acc := by
  induction cs generalizing acc with
  | nil => exact Nat.le_refl _
  | cons c rest ih =>
    rw [Nat.ofDigitChars_cons]
    have hnext := ih (10 * acc + (c.toNat - '0'.toNat))
    omega

/-- Reading upward ends with the number that the digits make up, if it is not too large. -/
theorem readUpward_eq_ok_iff {greatest n : Int} {acc : Nat} {cs : List Char}
    (hacc : (acc : Int) ≤ greatest) :
    readUpward greatest acc cs = .ok n ↔
      (∀ c ∈ cs, c.isDigit = true) ∧ n = Nat.ofDigitChars 10 cs acc ∧ n ≤ greatest := by
  induction cs generalizing acc with
  | nil =>
    rw [readUpward, Nat.ofDigitChars_nil]
    constructor
    · rintro ⟨⟩
      exact ⟨fun _ hc => absurd hc List.not_mem_nil, rfl, hacc⟩
    · rintro ⟨-, rfl, -⟩
      rfl
  | cons c rest ih =>
    rw [readUpward, Nat.ofDigitChars_cons, List.forall_mem_cons]
    cases hc : c.isDigit with
    | false =>
      rw [digitValue?_of_not_isDigit hc]
      simp
    | true =>
      rw [digitValue?_of_isDigit hc]
      have hnext : (acc : Int) * 10 + (c.toNat - '0'.toNat : Nat) =
          ((10 * acc + (c.toNat - '0'.toNat) : Nat) : Int) := by omega
      dsimp only
      rw [hnext]
      by_cases hover : greatest < ((10 * acc + (c.toNat - '0'.toNat) : Nat) : Int)
      · -- further digits make it no smaller
        rw [if_pos hover]
        have hle := le_ofDigitChars rest (10 * acc + (c.toNat - '0'.toNat))
        constructor
        · rintro ⟨⟩
        · rintro ⟨-, rfl, hn⟩
          omega
      · rw [if_neg hover, ih (Int.not_lt.mp hover)]
        simp

/-- Reading downward ends with the negative of the number that the digits make up, if it is not too
small. -/
theorem readDownward_eq_ok_iff {least n : Int} {acc : Nat} {cs : List Char}
    (hacc : least ≤ -(acc : Int)) :
    readDownward least (-(acc : Int)) cs = .ok n ↔
      (∀ c ∈ cs, c.isDigit = true) ∧ n = -(Nat.ofDigitChars 10 cs acc : Int) ∧ least ≤ n := by
  induction cs generalizing acc with
  | nil =>
    rw [readDownward, Nat.ofDigitChars_nil]
    constructor
    · rintro ⟨⟩
      exact ⟨fun _ hc => absurd hc List.not_mem_nil, rfl, hacc⟩
    · rintro ⟨-, rfl, -⟩
      rfl
  | cons c rest ih =>
    rw [readDownward, Nat.ofDigitChars_cons, List.forall_mem_cons]
    cases hc : c.isDigit with
    | false =>
      rw [digitValue?_of_not_isDigit hc]
      simp
    | true =>
      rw [digitValue?_of_isDigit hc]
      have hnext : -(acc : Int) * 10 - (c.toNat - '0'.toNat : Nat) =
          -((10 * acc + (c.toNat - '0'.toNat) : Nat) : Int) := by omega
      dsimp only
      rw [hnext]
      by_cases hunder : -((10 * acc + (c.toNat - '0'.toNat) : Nat) : Int) < least
      · rw [if_pos hunder]
        have hle := le_ofDigitChars rest (10 * acc + (c.toNat - '0'.toNat))
        constructor
        · rintro ⟨⟩
        · rintro ⟨-, rfl, hn⟩
          omega
      · rw [if_neg hunder, ih (Int.not_lt.mp hunder)]
        simp

/-! ### The range of a kind -/

theorem IntegerKind.least_nonpos (k : IntegerKind) : k.least ≤ 0 := by
  unfold least
  split <;> omega

theorem IntegerKind.greatest_nonneg (k : IntegerKind) : 0 ≤ k.greatest := by
  have hpow : 0 < Nat.pow 2 (if k.signed then k.bits - 1 else k.bits) := Nat.pow_pos Nat.two_pos
  unfold greatest
  omega

/-- Kinds without a sign start at zero. -/
theorem IntegerKind.least_of_unsigned {k : IntegerKind} (h : k.signed = false) : k.least = 0 := by
  rw [least, h]
  rfl

/-! ### Texts by their first character -/

/-- The first character of a number is a digit or a sign. -/
theorem isDigits_cons_iff {c : Char} {cs : List Char} :
    IsDigits (c :: cs) ↔ c.isDigit = true ∧ ∀ d ∈ cs, d.isDigit = true :=
  ⟨fun h => List.forall_mem_cons.mp h.digits,
    fun h => ⟨List.cons_ne_nil _ _, List.forall_mem_cons.mpr h⟩⟩

theorem denotesChars_plus_iff {cs : List Char} {n : Int} :
    DenotesChars ('+' :: cs) n ↔ IsDigits cs ∧ n = Nat.ofDigitChars 10 cs 0 := by
  constructor
  · intro h
    cases h with
    | unsigned h => exact absurd (isDigits_cons_iff.mp h).1 (by decide)
    | plus h => exact ⟨h, rfl⟩
  · rintro ⟨h, rfl⟩
    exact .plus h

theorem denotesChars_minus_iff {cs : List Char} {n : Int} :
    DenotesChars ('-' :: cs) n ↔ IsDigits cs ∧ n = -(Nat.ofDigitChars 10 cs 0 : Int) := by
  constructor
  · intro h
    cases h with
    | unsigned h => exact absurd (isDigits_cons_iff.mp h).1 (by decide)
    | minus h => exact ⟨h, rfl⟩
  · rintro ⟨h, rfl⟩
    exact .minus h

theorem denotesChars_unsigned_iff {c : Char} {cs : List Char} {n : Int} (hplus : c ≠ '+')
    (hminus : c ≠ '-') :
    DenotesChars (c :: cs) n ↔ IsDigits (c :: cs) ∧ n = Nat.ofDigitChars 10 (c :: cs) 0 := by
  constructor
  · intro h
    cases h with
    | unsigned h => exact ⟨h, rfl⟩
    | plus => exact absurd rfl hplus
    | minus => exact absurd rfl hminus
  · rintro ⟨h, rfl⟩
    exact .unsigned h

/-- A text denotes one integer at most. -/
theorem Denotes.unique {s : String} {m n : Int} (hm : Denotes s m) (hn : Denotes s n) : m = n := by
  unfold Denotes at hm hn
  generalize s.toList = cs at hm hn
  cases hm with
  | unsigned h =>
    cases hn with
    | unsigned => rfl
    | plus => exact absurd (isDigits_cons_iff.mp h).1 (by decide)
    | minus => exact absurd (isDigits_cons_iff.mp h).1 (by decide)
  | plus h => exact (denotesChars_plus_iff.mp hn).2.symm
  | minus h => exact (denotesChars_minus_iff.mp hn).2.symm

/-! ### Reading -/

theorem isDigits_iff {cs : List Char} (hne : cs ≠ []) :
    IsDigits cs ↔ ∀ c ∈ cs, c.isDigit = true :=
  ⟨IsDigits.digits, fun h => ⟨hne, h⟩⟩

/-- Digits are read as the number that they make up, if it is not too large. -/
theorem readUpward_zero_eq_ok_iff {greatest n : Int} {cs : List Char} (h : 0 ≤ greatest)
    (hne : cs ≠ []) :
    readUpward greatest 0 cs = .ok n ↔
      (IsDigits cs ∧ n = Nat.ofDigitChars 10 cs 0) ∧ n ≤ greatest := by
  rw [isDigits_iff hne, and_assoc]
  exact @readUpward_eq_ok_iff greatest n 0 cs h

/-- Digits after a minus sign are read as the negative of the number that they make up, if it is not
too small. -/
theorem readDownward_zero_eq_ok_iff {least n : Int} {cs : List Char} (h : least ≤ 0)
    (hne : cs ≠ []) :
    readDownward least 0 cs = .ok n ↔
      (IsDigits cs ∧ n = -(Nat.ofDigitChars 10 cs 0 : Int)) ∧ least ≤ n := by
  rw [isDigits_iff hne, and_assoc]
  exact @readDownward_eq_ok_iff least n 0 cs h

/-- **A text is read as the integer that it denotes**, if this lies in the range of the kind; kinds
without a sign take no minus sign, not even before a zero. -/
theorem readInteger_eq_ok_iff {k : IntegerKind} {s : String} {n : Int} :
    readInteger k s = .ok n ↔
      Denotes s n ∧ k.least ≤ n ∧ n ≤ k.greatest ∧
        (s.toList.head? = some '-' → k.signed = true) := by
  unfold readInteger Denotes
  generalize s.toList = cs
  have hleast := k.least_nonpos
  have hgreatest := k.greatest_nonneg
  cases cs with
  | nil =>
    constructor
    · rintro ⟨⟩
    · rintro ⟨⟨h⟩, -⟩
      exact absurd rfl h.ne_nil
  | cons c rest =>
    have hlone : ¬IsDigits [] := fun h => h.ne_nil rfl
    by_cases hplus : c = '+'
    · subst hplus
      rw [denotesChars_plus_iff]
      cases rest with
      | nil => simp [readIntegerChars, hlone]
      | cons d digits =>
        show readUpward k.greatest 0 (d :: digits) = .ok n ↔ _
        rw [readUpward_zero_eq_ok_iff hgreatest (List.cons_ne_nil _ _)]
        constructor
        · rintro ⟨⟨h, hn⟩, hle⟩
          exact ⟨⟨h, hn⟩, by omega, hle, by simp⟩
        · rintro ⟨h, -, hle, -⟩
          exact ⟨h, hle⟩
    by_cases hminus : c = '-'
    · subst hminus
      rw [denotesChars_minus_iff]
      cases rest with
      | nil => simp [readIntegerChars, hlone]
      | cons d digits =>
        show (if k.signed then readDownward k.least 0 (d :: digits) else .error .invalidDigit) =
          .ok n ↔ _
        cases hsigned : k.signed with
        | false => simp
        | true =>
          rw [if_pos rfl, readDownward_zero_eq_ok_iff hleast (List.cons_ne_nil _ _)]
          constructor
          · rintro ⟨⟨h, hn⟩, hle⟩
            exact ⟨⟨h, hn⟩, hle, by omega, fun _ => rfl⟩
          · rintro ⟨h, hle, -⟩
            exact ⟨h, hle⟩
    · rw [denotesChars_unsigned_iff hplus hminus]
      have hread : readIntegerChars k (c :: rest) = readUpward k.greatest 0 (c :: rest) := by
        unfold readIntegerChars
        split <;> simp_all
      rw [hread, readUpward_zero_eq_ok_iff hgreatest (List.cons_ne_nil _ _)]
      constructor
      · rintro ⟨⟨h, hn⟩, hle⟩
        exact ⟨⟨h, hn⟩, by omega, hle, fun hhead => absurd (Option.some.inj hhead) hminus⟩
      · rintro ⟨h, -, hle, -⟩
        exact ⟨h, hle⟩

end MetricFeed.Text
