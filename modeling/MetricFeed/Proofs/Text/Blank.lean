/-
MetricFeed/Proofs/Text/Blank.lean

What trimming removes: a text is its trimmed form with blanks on either side
(`Text.exists_blanks`), and blanks put on either side are removed again
(`Text.trimChars_append_left`, `Text.trimChars_append_right`).
-/
import Mathlib.Data.List.TakeWhile
import MetricFeed.Text.Blank

namespace MetricFeed.Text

/-- Nothing but blanks. -/
def Blanks (cs : List Char) : Prop := ∀ c ∈ cs, isBlank c = true

theorem Blanks.reverse {cs : List Char} (h : Blanks cs) : Blanks cs.reverse :=
  fun c hc => h c (List.mem_reverse.mp hc)

theorem Blanks.dropWhile_append {b : List Char} (h : Blanks b) (cs : List Char) :
    (b ++ cs).dropWhile isBlank = cs.dropWhile isBlank :=
  List.dropWhile_append_of_pos h

theorem Blanks.dropBlankEnd_append {b : List Char} (h : Blanks b) (cs : List Char) :
    dropBlankEnd (cs ++ b) = dropBlankEnd cs := by
  rw [dropBlankEnd, List.reverse_append, h.reverse.dropWhile_append, dropBlankEnd]

/-- Blanks in front are removed. -/
theorem Blanks.trimChars_append_left {b : List Char} (h : Blanks b) (cs : List Char) :
    trimChars (b ++ cs) = trimChars cs := by
  rw [trimChars, h.dropWhile_append, trimChars]

/-- Blanks at the end are removed. -/
theorem Blanks.trimChars_append_right {b : List Char} (h : Blanks b) (cs : List Char) :
    trimChars (cs ++ b) = trimChars cs := by
  unfold trimChars
  rw [List.dropWhile_append]
  split
  · -- there is nothing but blanks
    rename_i hempty
    rw [List.isEmpty_iff.mp hempty, ← List.append_nil b, h.dropWhile_append]
    rfl
  · exact h.dropBlankEnd_append _

theorem blanks_takeWhile (cs : List Char) : Blanks (cs.takeWhile isBlank) :=
  fun _ hc => List.mem_takeWhile_imp hc

theorem dropBlankEnd_append_blanks (cs : List Char) :
    dropBlankEnd cs ++ (cs.reverse.takeWhile isBlank).reverse = cs := by
  rw [dropBlankEnd, ← List.reverse_append, List.takeWhile_append_dropWhile, List.reverse_reverse]

/-- What trimming removes is blank. -/
theorem exists_blanks (cs : List Char) :
    ∃ front back, Blanks front ∧ Blanks back ∧ front ++ (trimChars cs ++ back) = cs := by
  refine ⟨cs.takeWhile isBlank, ((cs.dropWhile isBlank).reverse.takeWhile isBlank).reverse,
    blanks_takeWhile _, (blanks_takeWhile _).reverse, ?_⟩
  rw [trimChars, dropBlankEnd_append_blanks, List.takeWhile_append_dropWhile]

end MetricFeed.Text
