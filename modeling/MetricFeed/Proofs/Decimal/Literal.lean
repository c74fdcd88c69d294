/-
MetricFeed/Proofs/Decimal/Literal.lean

The texts of floats are number literals that spell what they should.

Wherever a layout puts the point, the digits of a decimal spell this decimal: positionally, with
zeros in front or behind where the point lies outside of the digits (`spells_positional`), or with an
exponent (`spells_exponential`).  Only the sign that a layout writes before an exponent matters:
none, or a plus.

Main results.  The text of a finite float is a literal of a number that rounds to this float
(`ofLiteral?_writeChars`), hence to no other, so that no two finite floats have one text
(`eq_of_writeChars_eq`).
-/
import MetricFeed.Decimal.Layout
import MetricFeed.Proofs.Decimal.Binary64
import MetricFeed.Proofs.Decimal.Shortest
import MetricFeed.Proofs.Json.Spelling

namespace MetricFeed.Decimal

open Json (Spells spelled digitsValue takeDigits readFraction? readExponent?)

/-! ### Layouts -/

variable {d : Nat} {ds : List Nat}

theorem replicate_zero_lt_ten (n : Nat) : ∀ e ∈ List.replicate n 0, e < 10 := by
  intro e he
  rw [List.eq_of_mem_replicate he]
  decide

/-- Digits laid out positionally spell the decimal of these digits. -/
theorem spells_positional (hten : ∀ e ∈ d :: ds, e < 10) (hd : d ≠ 0) (before : Int) :
    Spells (positional ((d :: ds).map Nat.digitChar) before)
      (digitsValue (d :: ds) * 10 ^ (before - (d :: ds).length)) := by
  have hnil : takeDigits [] = ([], []) := rfl
  have hnone : readExponent? [] = some none := rfl
  have hzero : ∀ e ∈ [0], e < 10 := List.forall_mem_singleton.mpr (by decide)
  unfold positional
  split
  · -- the point stands before the digits, and zeros between
    rename_i hbefore
    have hfraction : ∀ e ∈ List.replicate (-before).toNat 0 ++ d :: ds, e < 10 :=
      List.forall_mem_append.mpr ⟨replicate_zero_lt_ten _, hten⟩
    have hspells := Json.spells_point hzero (fun _ => rfl) hfraction
      (List.append_ne_nil_of_right_ne_nil _ (List.cons_ne_nil _ _)) hnil hnone
    have hexp : (-((-before).toNat + (d :: ds).length : Nat) : Int) =
        before - (d :: ds).length := by omega
    rw [Json.spelled_zeros_front, hexp, List.append_nil, List.map_append,
      List.map_replicate] at hspells
    exact hspells
  · rename_i hbefore
    dsimp only
    rw [List.length_map]
    split
    · -- zeros stand between the digits and the point
      rename_i hlength
      have hwhole : ∀ e ∈ d :: (ds ++ List.replicate (before.toNat - (d :: ds).length) 0), e < 10 :=
        List.forall_mem_append.mpr ⟨hten, replicate_zero_lt_ten _⟩
      have hspells := Json.spells_point hwhole (fun h => absurd h hd) hzero (List.cons_ne_nil _ _)
        hnil hnone
      have hexp : ((before.toNat - (d :: ds).length : Nat) : Int) = before - (d :: ds).length := by
        omega
      rw [← List.cons_append, Json.spelled_zeros_back, hexp, List.map_append,
        List.map_replicate] at hspells
      exact hspells
    · -- the point stands between digits
      rename_i hlength
      obtain ⟨n, hn⟩ : ∃ n, before.toNat = n + 1 := ⟨before.toNat - 1, by omega⟩
      rw [hn, List.length_cons] at hlength
      have hwhole : ∀ e ∈ d :: ds.take n, e < 10 := fun e he =>
        hten e (List.mem_of_mem_take (show e ∈ (d :: ds).take (n + 1) from he))
      have hfraction : ∀ e ∈ (d :: ds).drop (n + 1), e < 10 := fun e he =>
        hten e (List.mem_of_mem_drop he)
      have hne : (d :: ds).drop (n + 1) ≠ [] := by
        rw [Ne, List.drop_eq_nil_iff, List.length_cons]
        exact hlength
      have hspells := Json.spells_point hwhole (fun h => absurd h hd) hfraction hne hnil hnone
      have hexp : Json.exponentPower none - ((d :: ds).length - (n + 1) : Nat) =
          before - (d :: ds).length := by
        show (0 : Int) - ((d :: ds).length - (n + 1) : Nat) = _
        rw [List.length_cons]
        omega
      rw [← List.take_succ_cons, Json.spelled_take_drop, hexp, List.append_nil] at hspells
      rw [hn, ← List.map_take, ← List.map_drop]
      exact hspells

/-- The mark of an exponent and its digits are read as the power that they stand for. -/
theorem readExponent?_power {sign : String} (hsign : sign = "" ∨ sign = "+") (power : Int) :
    ∃ rest exponent, (if power < 0 then "e-" else "e" ++ sign).toList ++
        Nat.toDigits 10 power.natAbs = 'e' :: rest ∧
      readExponent? ('e' :: rest) = some exponent ∧ Json.exponentPower exponent = power := by
  by_cases hpower : power < 0
  · obtain ⟨es, hvalue, hread⟩ := Json.readExponent?_mark (.inl ⟨rfl, rfl⟩) power.natAbs
    refine ⟨_, some (true, es), ?_, hread, ?_⟩
    · rw [if_pos hpower]
      rfl
    · show -(digitsValue es : Int) = power
      omega
  · rw [if_neg hpower]
    rcases hsign with rfl | rfl
    · obtain ⟨es, hvalue, hread⟩ := Json.readExponent?_mark (.inr ⟨.inl rfl, rfl⟩) power.natAbs
      refine ⟨_, some (false, es), rfl, hread, ?_⟩
      show (digitsValue es : Int) = power
      omega
    · obtain ⟨es, hvalue, hread⟩ := Json.readExponent?_mark (.inr ⟨.inr rfl, rfl⟩) power.natAbs
      refine ⟨_, some (false, es), rfl, hread, ?_⟩
      show (digitsValue es : Int) = power
      omega

/-- Digits laid out with an exponent spell the decimal of these digits. -/
theorem spells_exponential {sign : String} (hsign : sign = "" ∨ sign = "+")
    (hten : ∀ e ∈ d :: ds, e < 10) (power : Int) :
    Spells (exponential sign ((d :: ds).map Nat.digitChar) power)
      (digitsValue (d :: ds) * 10 ^ (power - ds.length)) := by
  obtain ⟨rest, exponent, htext, hread, hpower⟩ := readExponent?_power hsign power
  have hstop : takeDigits ('e' :: rest) = ([], 'e' :: rest) := rfl
  unfold exponential
  dsimp only
  rw [List.append_assoc, htext]
  rcases ds with _ | ⟨next, ds⟩
  · have hfraction : readFraction? ('e' :: rest) = some (none, exponent) := by
      show (readExponent? ('e' :: rest)).map _ = _
      rw [hread]
      rfl
    have hspells := Json.spells_of_takeDigits (Json.takeDigits_digitChars hten hstop)
      (fun _ => rfl) hfraction
    have hexp : power - ([] : List Nat).length = power := Int.sub_zero power
    rw [Json.spelled_whole, hpower] at hspells
    rw [hexp]
    exact hspells
  · obtain ⟨hfirst, hrest⟩ := List.forall_mem_cons.mp hten
    have hspells := Json.spells_point (List.forall_mem_singleton.mpr hfirst) (fun _ => rfl) hrest
      (List.cons_ne_nil _ _) hstop hread
    have hvalue : spelled [d] (some (next :: ds)) exponent =
        digitsValue (d :: next :: ds) * 10 ^ (power - (next :: ds).length) :=
      hpower ▸ Json.spelled_take_drop 1 (d :: next :: ds) exponent
    rw [hvalue] at hspells
    exact hspells

/-- The text of a decimal above zero spells it. -/
theorem spells_writeDigits {l : Layout} (hsign : l.exponentSign = "" ∨ l.exponentSign = "+")
    {decimal : Digits} (hpos : 0 < decimal.digits) :
    Spells (l.writeDigits decimal) decimal.toRat := by
  obtain ⟨d, ds, hdigits, hten, hvalue, hzero⟩ := Json.toDigits_eq_map decimal.digits
  have hd : d ≠ 0 := by
    rintro rfl
    rw [hzero rfl] at hvalue
    exact absurd hpos (hvalue ▸ Nat.lt_irrefl 0)
  unfold Layout.writeDigits
  dsimp only
  rw [hdigits, List.length_map]
  have hrat : decimal.toRat = digitsValue (d :: ds) * 10 ^ decimal.exponent := by
    rw [hvalue]
    rfl
  rw [hrat]
  split
  · have hspells := spells_positional hten hd (decimal.exponent + (d :: ds).length - 1 + 1)
    have hexp : decimal.exponent + (d :: ds).length - 1 + 1 - (d :: ds).length =
      decimal.exponent := by omega
    rw [hexp] at hspells
    exact hspells
  · have hspells := spells_exponential hsign hten (decimal.exponent + (d :: ds).length - 1)
    have hexp : decimal.exponent + (d :: ds).length - 1 - ds.length = decimal.exponent := by
      rw [List.length_cons]
      omega
    rw [hexp] at hspells
    exact hspells

/-- The text of a magnitude spells a number that rounds to it. -/
theorem spells_writeMagnitude {l : Layout} (hsign : l.exponentSign = "" ∨ l.exponentSign = "+")
    {b : Binary} (hb : b.Canonical) :
    ∃ x, Spells (l.writeMagnitude b) x ∧ b.rounding.Contains x := by
  unfold Layout.writeMagnitude
  split
  · rename_i hzero
    have hvalue : spelled [0] (some [0]) none = 0 :=
      (Json.spelled_zeros_back 0 [0]).trans (zero_mul _)
    have hspells : Spells ['0', '.', '0'] (spelled [0] (some [0]) none) :=
      Json.spells_of_takeDigits rfl (fun _ => rfl) rfl
    rw [hvalue] at hspells
    exact ⟨0, hspells, Binary.contains_zero hzero⟩
  · rename_i hzero
    have hpos := Nat.pos_of_ne_zero hzero
    exact ⟨_, spells_writeDigits hsign (Binary.shortest_digits_pos hb hpos l.tie),
      Binary.contains_shortest hb hpos l.tie⟩

/-- **The text of a finite float is a literal of a number that rounds to it.** -/
theorem ofLiteral?_writeChars {l : Layout} (hsign : l.exponentSign = "" ∨ l.exponentSign = "+")
    {v : Float} (h : v.isFinite = true) :
    ∃ n b, Json.Number.ofLiteral? (l.writeChars v) = some n ∧
      Shape.ofBits v.toBits = .finite n.negative b ∧ b.rounding.Contains n.magnitude := by
  obtain ⟨negative, b, hshape⟩ := exists_ofBits_eq_finite h
  obtain ⟨x, hspells, hcontains⟩ := spells_writeMagnitude hsign (Shape.canonical_of_ofBits hshape)
  obtain ⟨n, hread, rfl, rfl⟩ := hspells negative
  refine ⟨n, b, ?_, hshape, hcontains⟩
  unfold Layout.writeChars
  rw [hshape]
  exact hread

/-- Finite floats of the same text are the same. -/
theorem eq_of_writeChars_eq {l : Layout} (hsign : l.exponentSign = "" ∨ l.exponentSign = "+")
    {v v' : Float} (hv : v.isFinite = true) (hv' : v'.isFinite = true)
    (h : l.writeChars v = l.writeChars v') : v = v' := by
  obtain ⟨n, b, hread, hshape, hcontains⟩ := ofLiteral?_writeChars hsign hv
  obtain ⟨n', b', hread', hshape', hcontains'⟩ := ofLiteral?_writeChars hsign hv'
  obtain rfl : n = n' := by
    rw [h, hread'] at hread
    exact (Option.some.inj hread).symm
  obtain rfl : b = b' := Binary.eq_of_contains (Shape.canonical_of_ofBits hshape)
    (Shape.canonical_of_ofBits hshape') hcontains hcontains'
  exact eq_of_toBits_eq (Shape.ofBits_inj hshape hshape')

end MetricFeed.Decimal
