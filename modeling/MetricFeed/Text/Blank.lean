/-
MetricFeed/Text/Blank.lean

The blanks of the Unicode standard (property White_Space) and the removal of blanks at both ends
of a text.  Settings are read with their surrounding blanks removed, so what counts as a blank
decides which settings are accepted.

`trim_idem` says that trimming twice trims no more than trimming once.
-/

namespace MetricFeed.Text

/-! ### Blanks -/

/-- The characters with the property White_Space. -/
def isBlank (c : Char) : Bool :=
  let n := c.toNat
  (9 ≤ n && n ≤ 13) || n == 0x20 || n == 0x85 || n == 0xA0 || n == 0x1680
    || (0x2000 ≤ n && n ≤ 0x200A) || n == 0x2028 || n == 0x2029 || n == 0x202F || n == 0x205F
    || n == 0x3000

/-! ### Trimming -/

/-- The characters that remain when the blanks at the end are dropped. -/
def dropBlankEnd (cs : List Char) : List Char :=
  (cs.reverse.dropWhile isBlank).reverse

/-- The characters between the first and the last that is no blank. -/
def trimChars (cs : List Char) : List Char :=
  dropBlankEnd (cs.dropWhile isBlank)

/-- A text without the blanks at its ends. -/
def trim (s : String) : String :=
  String.ofList (trimChars s.toList)

theorem dropWhile_idem (p : Char → Bool) (cs : List Char) :
    (cs.dropWhile p).dropWhile p = cs.dropWhile p := by
  induction cs with
  | nil => rfl
  | cons c r ih =>
    by_cases h : p c = true
    · simpa [List.dropWhile_cons, h] using ih
    · simp [h]

/-- A text that starts with no blank still starts with none when its end is trimmed. -/
theorem dropWhile_dropBlankEnd (cs : List Char) (h : cs.dropWhile isBlank = cs) :
    (dropBlankEnd cs).dropWhile isBlank = dropBlankEnd cs := by
  cases cs with
  | nil => rfl
  | cons c r =>
    have hc : isBlank c = false := by
      cases hb : isBlank c with
      | false => rfl
      | true =>
        rw [List.dropWhile_cons, if_pos hb] at h
        have hl := congrArg List.length h
        have hle := (List.dropWhile_suffix (l := r) isBlank).length_le
        simp at hl
        omega
    -- the first character survives, since the end is trimmed only up to it
    have hd : ∃ t, dropBlankEnd (c :: r) = c :: t := by
      unfold dropBlankEnd
      rw [List.reverse_cons]
      suffices ∀ l : List Char, ∃ m, (l ++ [c]).dropWhile isBlank = m ++ [c] by
        obtain ⟨m, hm⟩ := this r.reverse
        exact ⟨m.reverse, by simp [hm]⟩
      intro l
      induction l with
      | nil => exact ⟨[], by simp [hc]⟩
      | cons d l ih =>
        rw [List.cons_append, List.dropWhile_cons]
        split
        · exact ih
        · exact ⟨d :: l, rfl⟩
    obtain ⟨t, ht⟩ := hd
    rw [ht, List.dropWhile_cons, if_neg (by simp [hc])]

theorem dropBlankEnd_idem (cs : List Char) :
    dropBlankEnd (dropBlankEnd cs) = dropBlankEnd cs := by
  simp [dropBlankEnd, dropWhile_idem]

theorem trimChars_idem (cs : List Char) : trimChars (trimChars cs) = trimChars cs := by
  have h := dropWhile_dropBlankEnd (cs.dropWhile isBlank) (dropWhile_idem isBlank cs)
  unfold trimChars
  rw [h, dropBlankEnd_idem]

theorem trim_idem (s : String) : trim (trim s) = trim s := by
  simp [trim, trimChars_idem]

end MetricFeed.Text
