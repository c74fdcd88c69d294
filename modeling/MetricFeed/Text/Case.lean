/-
MetricFeed/Text/Case.lean

Upper and lower case of a text, letter by letter, by the full mappings of the Unicode standard.
A letter may map to several (`ß` to `SS`).  The mappings look at one letter at a time: the form
of a sigma at the end of a word is not told apart.
-/
import MetricFeed.Text.CaseTable

namespace MetricFeed.Text

/-! ### One letter -/

/-- The code point that the run maps `n` to, if it covers `n`. -/
def CaseRun.image? (run : CaseRun) (n : Nat) : Option Nat :=
  if run.first ≤ n ∧ n ≤ run.last ∧ (n - run.first) % run.step = 0 then
    some ((n : Int) + run.shift).toNat
  else
    none

/-- What a letter becomes: its expansion if it has one, else its run's image, else itself. -/
def mapLetter (runs : List CaseRun) (expansions : List (Nat × List Nat)) (c : Char) :
    List Char :=
  match expansions.lookup c.toNat with
  | some letters => letters.map Char.ofNat
  | none =>
    match runs.findSome? (·.image? c.toNat) with
    | some n => [Char.ofNat n]
    | none => [c]

/-- The upper-case form of a letter. -/
def upperLetter (c : Char) : List Char :=
  mapLetter upperRuns upperExpansions c

/-- The lower-case form of a letter. -/
def lowerLetter (c : Char) : List Char :=
  mapLetter lowerRuns lowerExpansions c

/-! ### Texts -/

/-- A text in upper case. -/
def upper (s : String) : String :=
  String.ofList (s.toList.flatMap upperLetter)

/-- A text in lower case. -/
def lower (s : String) : String :=
  String.ofList (s.toList.flatMap lowerLetter)

end MetricFeed.Text
