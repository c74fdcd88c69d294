/-
MetricFeed/Proofs/Text/Case.lean

What a change of case does to blanks and to plain letters, for all letters of the Unicode standard.

* Blanks have no case, and no letter becomes a blank or vanishes (`LeavesBlanks`).  So trimming a
  text and changing its case can be done in either order (`LeavesBlanks.trimChars_flatMap`).
* A plain letter is one of a to z that only itself and its capital are put into, in lower as in
  upper case.  The others are i, k and s, which have relatives further up (the dotless i, the Kelvin
  sign, the long s), and f, which ligatures are taken apart into.

Main result (`lower_eq_iff_upper_eq`): a text becomes a given word of plain letters in lower case
exactly if it becomes the capitals of this word in upper case, namely if it spells the word letter
by letter in either case.  Both facts on the tables of case are checked run by run.
-/
import Mathlib.Data.List.Forall2
import MetricFeed.Text.Blank
import MetricFeed.Text.Case

namespace MetricFeed.Text

/-! ### Runs of letters -/

/-- The code points that the run maps end before `lo` or begin after `hi`. -/
def CaseRun.Misses (run : CaseRun) (lo hi : Nat) : Prop :=
  run.last < lo ∨ hi < run.first

/-- The code points that the run maps to end before `lo` or begin after `hi`. -/
def CaseRun.ImageMisses (run : CaseRun) (lo hi : Nat) : Prop :=
  (run.last : Int) + run.shift < lo ∨ (hi : Int) < run.first + run.shift

instance (run : CaseRun) (lo hi : Nat) : Decidable (run.Misses lo hi) :=
  inferInstanceAs (Decidable (_ ∨ _))

instance (run : CaseRun) (lo hi : Nat) : Decidable (run.ImageMisses lo hi) :=
  inferInstanceAs (Decidable (_ ∨ _))

theorem CaseRun.of_image? {run : CaseRun} {n m : Nat} (h : run.image? n = some m) :
    run.first ≤ n ∧ n ≤ run.last ∧ m = ((n : Int) + run.shift).toNat := by
  unfold image? at h
  split at h
  · rename_i hrange
    exact ⟨hrange.1, hrange.2.1, (Option.some.inj h).symm⟩
  · cases h

theorem CaseRun.Misses.not_mem {run : CaseRun} {lo hi n m : Nat} (h : run.Misses lo hi)
    (himage : run.image? n = some m) : ¬ (lo ≤ n ∧ n ≤ hi) := by
  obtain ⟨hfirst, hlast, -⟩ := of_image? himage
  unfold Misses at h
  omega

theorem CaseRun.ImageMisses.not_mem {run : CaseRun} {lo hi n m : Nat} (hlo : 0 < lo)
    (h : run.ImageMisses lo hi) (himage : run.image? n = some m) : ¬ (lo ≤ m ∧ m ≤ hi) := by
  obtain ⟨hfirst, hlast, hm⟩ := of_image? himage
  unfold ImageMisses at h
  omega

/-- What becomes of a letter: it is expanded, or mapped by a run, or stays as it is. -/
theorem mapLetter_cases (runs : List CaseRun) (expansions : List (Nat × List Nat)) (c : Char) :
    (∃ e ∈ expansions, e.1 = c.toNat ∧ mapLetter runs expansions c = e.2.map Char.ofNat) ∨
    (∃ run ∈ runs, ∃ m, run.image? c.toNat = some m ∧
      mapLetter runs expansions c = [Char.ofNat m]) ∨
    mapLetter runs expansions c = [c] := by
  unfold mapLetter
  split
  · rename_i letters hexp
    obtain ⟨before, after, hsplit, -⟩ := List.lookup_eq_some_iff.mp hexp
    refine .inl ⟨(c.toNat, letters), ?_, rfl, rfl⟩
    rw [hsplit]
    exact List.mem_append_right _ List.mem_cons_self
  · split
    · rename_i m hrun
      obtain ⟨run, hmem, himage⟩ := List.exists_of_findSome?_eq_some hrun
      exact .inr (.inl ⟨run, hmem, m, himage, rfl⟩)
    · exact .inr (.inr rfl)

/-! ### Blanks -/

/-- The blanks as ranges of code points. -/
def blankRanges : List (Nat × Nat) :=
  [(0x9, 0xD), (0x20, 0x20), (0x85, 0x85), (0xA0, 0xA0), (0x1680, 0x1680), (0x2000, 0x200A),
    (0x2028, 0x2029), (0x202F, 0x202F), (0x205F, 0x205F), (0x3000, 0x3000)]

theorem isBlank_iff (c : Char) :
    isBlank c = true ↔ ∃ r ∈ blankRanges, r.1 ≤ c.toNat ∧ c.toNat ≤ r.2 := by
  simp only [isBlank, blankRanges, List.mem_cons, List.not_mem_nil, or_false, or_and_right,
    exists_or, exists_eq_left, Bool.or_eq_true, Bool.and_eq_true, decide_eq_true_eq, beq_iff_eq]
  omega

/-- The character of a code point has it, unless there is none. -/
theorem toNat_ofNat_cases (n : Nat) : (Char.ofNat n).toNat = n ∨ (Char.ofNat n).toNat = 0 := by
  by_cases h : n.isValidChar
  · have heq : Char.ofNat n = Char.ofNatAux n h := dif_pos h
    exact .inl (heq ▸ rfl)
  · have heq : Char.ofNat n = '\x00' := dif_neg h
    exact .inr (heq ▸ rfl)

/-- Blanks stay as they are, and all else becomes something else than blanks. -/
structure LeavesBlanks (f : Char → List Char) : Prop where
  blank : ∀ c, isBlank c = true → f c = [c]
  ne_nil : ∀ c, f c ≠ []
  notBlank : ∀ c, isBlank c = false → ∀ d ∈ f c, isBlank d = false

/-- Whether the tables of a change of case leave blanks alone. -/
def leavesBlanks (runs : List CaseRun) (expansions : List (Nat × List Nat)) : Bool :=
  (runs.all fun run => blankRanges.all fun r => run.Misses r.1 r.2 && run.ImageMisses r.1 r.2) &&
    expansions.all fun e =>
      !isBlank (Char.ofNat e.1) && !e.2.isEmpty && e.2.all fun n => !isBlank (Char.ofNat n)

theorem leavesBlanks_mapLetter {runs : List CaseRun} {expansions : List (Nat × List Nat)}
    (h : leavesBlanks runs expansions = true) : LeavesBlanks (mapLetter runs expansions) := by
  simp only [leavesBlanks, Bool.and_eq_true, List.all_eq_true, decide_eq_true_eq,
    Bool.not_eq_true', List.isEmpty_eq_false_iff] at h
  obtain ⟨hruns, hexpansions⟩ := h
  refine ⟨fun c hc => ?_, fun c => ?_, fun c hc d hd => ?_⟩
  · rcases mapLetter_cases runs expansions c with
      ⟨e, he, heq, -⟩ | ⟨run, hrun, m, himage, -⟩ | hsame
    · have hblank := (hexpansions e he).1.1
      rw [heq, Char.ofNat_toNat, hc] at hblank
      cases hblank
    · obtain ⟨r, hr, hrange⟩ := (isBlank_iff c).mp hc
      exact absurd hrange ((hruns run hrun r hr).1.not_mem himage)
    · exact hsame
  · rcases mapLetter_cases runs expansions c with
      ⟨e, he, -, heq⟩ | ⟨run, -, m, -, heq⟩ | hsame
    · rw [heq]
      exact fun hnil => (hexpansions e he).1.2 (List.map_eq_nil_iff.mp hnil)
    · rw [heq]
      exact List.cons_ne_nil _ _
    · rw [hsame]
      exact List.cons_ne_nil _ _
  · rcases mapLetter_cases runs expansions c with
      ⟨e, he, -, heq⟩ | ⟨run, hrun, m, himage, heq⟩ | hsame
    · rw [heq] at hd
      obtain ⟨n, hn, rfl⟩ := List.mem_map.mp hd
      exact (hexpansions e he).2 n hn
    · rw [heq] at hd
      cases List.mem_singleton.mp hd
      refine Bool.eq_false_iff.mpr fun hblank => ?_
      obtain ⟨r, hr, hrange⟩ := (isBlank_iff _).mp hblank
      have hpos : ∀ r ∈ blankRanges, 0 < r.1 := by decide
      rcases toNat_ofNat_cases m with hm | hm
      · rw [hm] at hrange
        exact (hruns run hrun r hr).2.not_mem (hpos r hr) himage hrange
      · have := hpos r hr
        omega
    · rw [hsame] at hd
      cases List.mem_singleton.mp hd
      exact hc

theorem leavesBlanks_lowerLetter : LeavesBlanks lowerLetter :=
  leavesBlanks_mapLetter (by decide +kernel)

theorem leavesBlanks_upperLetter : LeavesBlanks upperLetter :=
  leavesBlanks_mapLetter (by decide +kernel)

namespace LeavesBlanks

variable {f : Char → List Char}

theorem reverse (h : LeavesBlanks f) : LeavesBlanks fun c => (f c).reverse where
  blank c hc := by rw [h.blank c hc]; rfl
  ne_nil c hnil := h.ne_nil c (List.reverse_eq_nil_iff.mp hnil)
  notBlank c hc d hd := h.notBlank c hc d (List.mem_reverse.mp hd)

theorem dropWhile_flatMap (h : LeavesBlanks f) (cs : List Char) :
    (cs.flatMap f).dropWhile isBlank = (cs.dropWhile isBlank).flatMap f := by
  induction cs with
  | nil => rfl
  | cons c rest ih =>
    rw [List.flatMap_cons]
    by_cases hc : isBlank c = true
    · rw [h.blank c hc, List.singleton_append, List.dropWhile_cons, if_pos hc,
        List.dropWhile_cons, if_pos hc, ih]
    · have hc' : isBlank c = false := Bool.eq_false_iff.mpr hc
      rw [List.dropWhile_cons, if_neg hc, List.flatMap_cons]
      rcases hf : f c with _ | ⟨d, ds⟩
      · exact absurd hf (h.ne_nil c)
      · have hd : isBlank d = false := h.notBlank c hc' d (by rw [hf]; exact List.mem_cons_self)
        rw [List.cons_append, List.dropWhile_cons, if_neg (Bool.eq_false_iff.mp hd)]

/-- Trimming and changing the case can be done in either order. -/
theorem trimChars_flatMap (h : LeavesBlanks f) (cs : List Char) :
    trimChars (cs.flatMap f) = (trimChars cs).flatMap f := by
  have hreverse : ∀ l : List Char,
      (l.flatMap f).reverse = l.reverse.flatMap fun c => (f c).reverse :=
    fun l => List.reverse_flatMap
  unfold trimChars dropBlankEnd
  rw [h.dropWhile_flatMap, hreverse, h.reverse.dropWhile_flatMap, List.reverse_flatMap]
  simp [Function.comp_def]

theorem flatMap_eq_nil_iff (h : LeavesBlanks f) {cs : List Char} : cs.flatMap f = [] ↔ cs = [] := by
  rcases cs with _ | ⟨c, rest⟩
  · simp
  · rw [List.flatMap_cons]
    simp [h.ne_nil c]

end LeavesBlanks

/-! ### Plain letters -/

/-- The letters that only themselves and their capitals are put into by a change of case. -/
def plainLetters : List Char :=
  ['a', 'b', 'c', 'd', 'e', 'g', 'h', 'j', 'l', 'm', 'n', 'o', 'p', 'q', 'r', 't', 'u', 'v', 'w',
    'x', 'y', 'z']

/-- A text spells a word, letter by letter, in lower or upper case. -/
def Spells (cs word : List Char) : Prop :=
  List.Forall₂ (fun c letter => c = letter ∨ c = letter.toUpper) cs word

/-- A change of case that puts plain letters into the form `form`, and nothing else into plain
letters alone. -/
structure PutsInto (f : Char → List Char) (form : Char → Char) : Prop where
  ne_nil : ∀ c, f c ≠ []
  letter : ∀ letter ∈ plainLetters,
    f letter = [form letter] ∧ f letter.toUpper = [form letter]
  only : ∀ c, (∀ d ∈ f c, d ∈ plainLetters.map form) →
    ∃ letter ∈ plainLetters, c = letter ∨ c = letter.toUpper
  injective : ∀ a ∈ plainLetters, ∀ b ∈ plainLetters, form a = form b → a = b

theorem PutsInto.flatMap_eq_iff {f : Char → List Char} {form : Char → Char} (h : PutsInto f form)
    {cs word : List Char} (hword : ∀ letter ∈ word, letter ∈ plainLetters) :
    cs.flatMap f = word.map form ↔ Spells cs word := by
  induction cs generalizing word with
  | nil =>
    rcases word with _ | ⟨letter, word⟩
    · simp [Spells]
    · simp [Spells]
  | cons c rest ih =>
    rw [List.flatMap_cons]
    constructor
    · intro heq
      -- what the letter becomes is a beginning of the word, so it is one plain letter
      have honly : ∀ d ∈ f c, d ∈ plainLetters.map form := by
        intro d hd
        have hmem : d ∈ word.map form := heq ▸ List.mem_append_left _ hd
        obtain ⟨letter, hletter, rfl⟩ := List.mem_map.mp hmem
        exact List.mem_map_of_mem (hword letter hletter)
      obtain ⟨a, ha, hc⟩ := h.only c honly
      have hfc : f c = [form a] := by
        rcases hc with rfl | rfl
        · exact (h.letter _ ha).1
        · exact (h.letter _ ha).2
      rw [hfc] at heq
      rcases word with _ | ⟨letter, word⟩
      · cases heq
      · obtain ⟨hform, hrest⟩ := List.cons.inj heq
        obtain rfl := h.injective a ha letter (hword letter List.mem_cons_self) hform
        exact .cons hc ((ih fun l hl => hword l (List.mem_cons_of_mem _ hl)).mp hrest)
    · rintro (_ | ⟨hc, hrest⟩)
      rename_i letter word
      obtain ⟨hletter, hword⟩ := List.forall_mem_cons.mp hword
      have hfc : f c = [form letter] := by
        rcases hc with rfl | rfl
        · exact (h.letter _ hletter).1
        · exact (h.letter _ hletter).2
      rw [hfc, (ih hword).mpr hrest]
      rfl

/-- Whether the tables of a change of case put nothing but letters at the distance `shift` into
plain letters of the form `form`. -/
def sparesPlain (form : Char → Char) (shift : Int) (runs : List CaseRun)
    (expansions : List (Nat × List Nat)) : Bool :=
  (runs.all fun run => run.shift == shift ||
    plainLetters.all fun letter => run.ImageMisses (form letter).toNat (form letter).toNat) &&
    expansions.all fun e => e.2.any fun n => !(plainLetters.map form).contains (Char.ofNat n)

theorem only_of_sparesPlain {form : Char → Char} {shift : Int} {runs : List CaseRun}
    {expansions : List (Nat × List Nat)} (h : sparesPlain form shift runs expansions = true)
    (hpos : ∀ letter ∈ plainLetters, 0 < (form letter).toNat) {c : Char}
    (honly : ∀ d ∈ mapLetter runs expansions c, d ∈ plainLetters.map form) :
    ∃ letter ∈ plainLetters, c = form letter ∨ (c.toNat : Int) + shift = (form letter).toNat := by
  simp only [sparesPlain, Bool.and_eq_true, List.all_eq_true, List.any_eq_true, Bool.or_eq_true,
    beq_iff_eq, decide_eq_true_eq, Bool.not_eq_true', List.contains_eq_mem,
    decide_eq_false_iff_not] at h
  obtain ⟨hruns, hexpansions⟩ := h
  rcases mapLetter_cases runs expansions c with
    ⟨e, he, -, heq⟩ | ⟨run, hrun, m, himage, heq⟩ | hsame
  · obtain ⟨n, hn, hnot⟩ := hexpansions e he
    refine absurd (honly _ ?_) hnot
    rw [heq]
    exact List.mem_map_of_mem hn
  · have hmem := honly (Char.ofNat m) (by rw [heq]; exact List.mem_singleton_self _)
    obtain ⟨letter, hletter, hform⟩ := List.mem_map.mp hmem
    refine ⟨letter, hletter, .inr ?_⟩
    have hletterPos := hpos letter hletter
    have hm : (form letter).toNat = m := by
      rw [hform] at hletterPos ⊢
      exact (toNat_ofNat_cases m).resolve_right (by omega)
    rcases hruns run hrun with hshift | hmisses
    · obtain ⟨-, -, hvalue⟩ := CaseRun.of_image? himage
      omega
    · exact absurd ⟨Nat.le_of_eq hm, Nat.le_of_eq hm.symm⟩
        ((hmisses letter hletter).not_mem hletterPos himage)
  · obtain ⟨letter, hletter, hform⟩ :=
      List.mem_map.mp (honly c (by rw [hsame]; exact List.mem_singleton_self _))
    exact ⟨letter, hletter, .inl hform.symm⟩

/-- What is checked letter by letter holds of all plain letters. -/
theorem forall_plain {p : Char → Prop} [DecidablePred p]
    (h : (plainLetters.all fun letter => decide (p letter)) = true) :
    ∀ letter ∈ plainLetters, p letter := by
  simpa using h

theorem toNat_toUpper : ∀ letter ∈ plainLetters, letter.toUpper.toNat + 0x20 = letter.toNat :=
  forall_plain (by decide)

theorem putsInto_lowerLetter : PutsInto lowerLetter id where
  ne_nil := leavesBlanks_lowerLetter.ne_nil
  letter := forall_plain (by decide +kernel)
  only c honly := by
    have hspares : sparesPlain id 0x20 lowerRuns lowerExpansions = true := by decide +kernel
    have hpos : ∀ letter ∈ plainLetters, 0 < (id letter).toNat := forall_plain (by decide)
    obtain ⟨letter, hletter, hc | hc⟩ := only_of_sparesPlain hspares hpos honly
    · exact ⟨letter, hletter, .inl hc⟩
    · have hupper := toNat_toUpper letter hletter
      exact ⟨letter, hletter, .inr (Char.toNat_inj.mp (by simp only [id_eq] at hc; omega))⟩
  injective _ _ _ _ h := h

theorem putsInto_upperLetter : PutsInto upperLetter Char.toUpper where
  ne_nil := leavesBlanks_upperLetter.ne_nil
  letter := forall_plain (by decide +kernel)
  only c honly := by
    have hspares : sparesPlain Char.toUpper (-0x20) upperRuns upperExpansions = true := by
      decide +kernel
    have hpos : ∀ letter ∈ plainLetters, 0 < letter.toUpper.toNat := forall_plain (by decide)
    obtain ⟨letter, hletter, hc | hc⟩ := only_of_sparesPlain hspares hpos honly
    · exact ⟨letter, hletter, .inr hc⟩
    · have hupper := toNat_toUpper letter hletter
      exact ⟨letter, hletter, .inl (Char.toNat_inj.mp (by omega))⟩
  injective a ha b hb h := by
    have ha' := toNat_toUpper a ha
    have hb' := toNat_toUpper b hb
    rw [h] at ha'
    exact Char.toNat_inj.mp (by omega)

/-- **A text becomes a word of plain letters in lower case exactly if it becomes the word's capitals
in upper case.** -/
theorem lower_eq_iff_upper_eq {s word : String} (h : ∀ c ∈ word.toList, c ∈ plainLetters) :
    lower s = word ↔ upper s = String.ofList (word.toList.map Char.toUpper) := by
  have hlower : lower s = word ↔ s.toList.flatMap lowerLetter = word.toList.map id := by
    rw [List.map_id, lower, ← String.toList_inj, String.toList_ofList]
  have hupper : upper s = String.ofList (word.toList.map Char.toUpper) ↔
      s.toList.flatMap upperLetter = word.toList.map Char.toUpper := by
    rw [upper, ← String.toList_inj, String.toList_ofList, String.toList_ofList]
  rw [hlower, hupper, putsInto_lowerLetter.flatMap_eq_iff h, putsInto_upperLetter.flatMap_eq_iff h]

end MetricFeed.Text
