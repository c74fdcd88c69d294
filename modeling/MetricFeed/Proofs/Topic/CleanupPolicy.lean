/-
MetricFeed/Proofs/Topic/CleanupPolicy.lean

What a list of words says about a topic's old records.  The reader of policies counts words, the
drift of a configuration compares two lists with each other; both are proved to decide the same
thing: that the list names the actions of the policy, each at least once, and nothing else
(`CleanupPolicy.Means`).

* `CleanupPolicy.read_eq_ok_iff` : a list is read as the policy that it means;
* `CleanupPolicy.sameWords_word_iff` : a list has the same words as that of the policy that it
  means;
* `CleanupPolicy.Alike.means_iff` : the order of the entries, their case, blanks around them, empty
  entries and repetitions are nothing to what a list means.

Main result (`CleanupPolicy.read_agrees_with_drift`): a text is read as a policy exactly if a live
configuration with this text does not drift from the policy.
-/
import Mathlib.Data.List.Perm.Subperm
import MetricFeed.Proofs.Text.Blank
import MetricFeed.Proofs.Text.Case
import MetricFeed.Proofs.Topic.Drift

namespace MetricFeed

namespace CleanupPolicy

/-! ### The words of a list -/

/-- The entries of a comma-separated list. -/
def entries (s : String) : List (List Char) :=
  s.toList.splitOn ','

/-- An entry without the blanks around it, in lower case. -/
def wordOf (entry : List Char) : String :=
  Text.lower (String.ofList (Text.trimChars entry))

/-- A list names a word: one of its entries is this word, but for case and blanks around it. -/
def Names (l : List (List Char)) (w : String) : Prop :=
  w ≠ "" ∧ ∃ entry ∈ l, wordOf entry = w

/-- What a policy does with old records, action by action. -/
def actions : CleanupPolicy → List String
  | .delete => ["delete"]
  | .compact => ["compact"]
  | .compactDelete => ["compact", "delete"]

/-- A list means a policy: it names the policy's actions and nothing else. -/
def Means (l : List (List Char)) (p : CleanupPolicy) : Prop :=
  ∀ w, Names l w ↔ w ∈ p.actions

theorem splitAtCommas_eq_splitOn (cs : List Char) : splitAtCommas cs = cs.splitOn ',' := by
  induction cs with
  | nil => rfl
  | cons c rest ih =>
    rw [splitAtCommas, ih, List.splitOn_cons_eq_if_modifyHead]
    rcases hsplit : rest.splitOn ',' with _ | ⟨entry, entries⟩
    · exact absurd hsplit (List.splitOn_ne_nil _ _)
    · by_cases hc : c = ','
      · simp [hc]
      · simp [hc]

theorem mem_words_iff {s w : String} : w ∈ words s ↔ Names (entries s) w := by
  unfold words
  rw [List.mem_eraseDups, List.mem_filter, List.mem_map, splitAtCommas_eq_splitOn]
  exact ⟨fun ⟨hmem, hne⟩ => ⟨by simpa using hne, hmem⟩,
    fun ⟨hne, hmem⟩ => ⟨hmem, by simpa using hne⟩⟩

theorem nodup_eraseDups {α : Type} [DecidableEq α] (l : List α) : l.eraseDups.Nodup := by
  induction hn : l.length using Nat.strongRecOn generalizing l with
  | ind n ih =>
    rcases l with _ | ⟨a, rest⟩
    · exact List.nodup_nil
    · rw [List.eraseDups_cons, List.nodup_cons]
      have hle : (rest.filter fun b => !b == a).length ≤ rest.length := List.length_filter_le _ _
      have hlength : rest.length + 1 = n := hn
      refine ⟨fun hmem => ?_, ih _ (by omega) _ rfl⟩
      have hne := (List.mem_filter.mp (List.mem_eraseDups.mp hmem)).2
      simp at hne

theorem nodup_words (s : String) : (words s).Nodup := nodup_eraseDups _

theorem nodup_actions (p : CleanupPolicy) : p.actions.Nodup := by
  cases p <;> decide

/-- A list means the policy of which its words are the actions. -/
theorem means_iff_perm {s : String} {p : CleanupPolicy} :
    Means (entries s) p ↔ (words s).Perm p.actions := by
  rw [List.perm_ext_iff_of_nodup (nodup_words s) (nodup_actions p)]
  exact forall_congr' fun w => by rw [mem_words_iff]

/-- No list means two policies. -/
theorem Means.unique {l : List (List Char)} {p q : CleanupPolicy} (hp : Means l p)
    (hq : Means l q) : p = q := by
  have h : ∀ w, w ∈ p.actions ↔ w ∈ q.actions := fun w => (hp w).symm.trans (hq w)
  have hdelete := h "delete"
  have hcompact := h "compact"
  cases p <;> cases q <;> simp [actions] at hdelete hcompact ⊢

/-! ### Blanks around the whole list -/

theorem comma_notMem_of_blanks {b : List Char} (h : Text.Blanks b) : ',' ∉ b :=
  fun hmem => absurd (h _ hmem) (by decide)

theorem comma_notMem_append {b cs : List Char} (hb : ',' ∉ b) (hcs : ',' ∉ cs) :
    ',' ∉ b ++ cs :=
  fun hmem => (List.mem_append.mp hmem).elim hb hcs

/-- Blanks in front of a list belong to its first entry. -/
theorem map_trimChars_append_left {b : List Char} (h : Text.Blanks b) (cs : List Char) :
    ((b ++ cs).splitOn ',').map Text.trimChars = (cs.splitOn ',').map Text.trimChars := by
  have hb := comma_notMem_of_blanks h
  by_cases hcomma : ',' ∈ cs
  · obtain ⟨first, rest, rfl, hfirst⟩ := List.eq_append_cons_of_mem hcomma
    rw [← List.append_assoc, List.splitOn_append_cons_self, List.splitOn_append_cons_self,
      List.splitOn_eq_singleton hfirst, List.splitOn_eq_singleton (comma_notMem_append hb hfirst)]
    simp only [List.map_append, List.map_cons, List.map_nil, h.trimChars_append_left]
  · rw [List.splitOn_eq_singleton hcomma,
      List.splitOn_eq_singleton (comma_notMem_append hb hcomma)]
    simp only [List.map_cons, List.map_nil, h.trimChars_append_left]

/-- Blanks at the end of a list belong to its last entry. -/
theorem map_trimChars_append_right {b : List Char} (h : Text.Blanks b) (cs : List Char) :
    ((cs ++ b).splitOn ',').map Text.trimChars = (cs.splitOn ',').map Text.trimChars := by
  have hb := comma_notMem_of_blanks h
  by_cases hcomma : ',' ∈ cs
  · -- the last comma is the first one from behind
    obtain ⟨back, front, hreverse, hback⟩ :=
      List.eq_append_cons_of_mem (List.mem_reverse.mpr hcomma)
    have hlast : ',' ∉ back.reverse := fun hmem => hback (List.mem_reverse.mp hmem)
    have hcs : cs = front.reverse ++ ',' :: back.reverse := by
      rw [← List.reverse_reverse cs, hreverse]
      simp
    rw [hcs, List.append_assoc, List.cons_append, List.splitOn_append_cons_self,
      List.splitOn_append_cons_self, List.splitOn_eq_singleton hlast,
      List.splitOn_eq_singleton (comma_notMem_append hlast hb)]
    simp only [List.map_append, List.map_cons, List.map_nil, h.trimChars_append_right]
  · rw [List.splitOn_eq_singleton hcomma,
      List.splitOn_eq_singleton (comma_notMem_append hcomma hb)]
    simp only [List.map_cons, List.map_nil, h.trimChars_append_right]

/-- Blanks around the whole list change no word. -/
theorem words_trim (s : String) : words (Text.trim s) = words s := by
  obtain ⟨front, back, hfront, hback, hs⟩ := Text.exists_blanks s.toList
  have htrimmed : ((Text.trimChars s.toList).splitOn ',').map Text.trimChars =
      (s.toList.splitOn ',').map Text.trimChars := by
    conv_rhs => rw [← hs]
    rw [map_trimChars_append_left hfront, map_trimChars_append_right hback]
  have hwords : ∀ cs : List Char, (cs.splitOn ',').map (fun entry =>
      Text.lower (String.ofList (Text.trimChars entry))) =
      ((cs.splitOn ',').map Text.trimChars).map (Text.lower ∘ String.ofList) :=
    fun cs => by rw [List.map_map]; rfl
  rw [words, words, splitAtCommas_eq_splitOn, splitAtCommas_eq_splitOn, hwords, hwords, Text.trim,
    String.toList_ofList, htrimmed]

/-! ### Reading and comparing -/

/-- A list is read as the policy that it means. -/
theorem read_of_means {s : String} {p : CleanupPolicy} (h : Means (entries s) p) :
    read s = .ok p := by
  have hperm := means_iff_perm.mp h
  have hlength := hperm.length_eq
  have hcontains : ∀ w, (words s).contains w = p.actions.contains w := fun w => hperm.contains_eq
  simp only [read, hcontains, hlength]
  cases p <;> rfl

theorem means_of_read {s : String} {p : CleanupPolicy} (h : read s = .ok p) :
    Means (entries s) p := by
  have hnodup := nodup_words s
  rw [means_iff_perm]
  unfold read at h
  generalize words s = ws at h hnodup
  dsimp only at h
  split at h
  · -- one word, and it is this one
    rename_i hdelete _ hlength
    cases h
    obtain ⟨w, rfl⟩ := List.length_eq_one_iff.mp hlength
    have hw : w = "delete" := by simpa [eq_comm] using hdelete
    rw [hw]
    exact .refl _
  · rename_i _ hcompact hlength
    cases h
    obtain ⟨w, rfl⟩ := List.length_eq_one_iff.mp hlength
    have hw : w = "compact" := by simpa [eq_comm] using hcompact
    rw [hw]
    exact .refl _
  · -- two words, which are different from each other
    rename_i hdelete hcompact hlength
    cases h
    have hsub : ["compact", "delete"] ⊆ ws := by
      simpa using And.intro hcompact hdelete
    exact ((List.subperm_of_subset (by decide) hsub).perm_of_length_le (by simp [hlength])).symm
  · cases h

/-- **A list is read as the policy that it means**, and as no other. -/
theorem read_eq_ok_iff {s : String} {p : CleanupPolicy} : read s = .ok p ↔ Means (entries s) p :=
  ⟨means_of_read, read_of_means⟩

/-- Blanks around the whole list do not matter to the reader. -/
theorem read_trim_eq_ok_iff {s : String} {p : CleanupPolicy} :
    read (Text.trim s) = .ok p ↔ read s = .ok p := by
  rw [read_eq_ok_iff, read_eq_ok_iff, means_iff_perm, means_iff_perm, words_trim]

/-- The list that stands for a policy means it. -/
theorem means_word (p : CleanupPolicy) : Means (entries p.word) p := by
  rw [← read_eq_ok_iff]
  cases p <;> decide

/-- **A list has the same words as that of the policy that it means.** -/
theorem sameWords_word_iff {s : String} {p : CleanupPolicy} :
    sameWords s p.word = true ↔ Means (entries s) p := by
  have hword : ∀ w, w ∈ words p.word ↔ w ∈ p.actions := fun w =>
    mem_words_iff.trans (means_word p w)
  simp only [sameWords, Bool.and_eq_true, List.all_eq_true, List.contains_iff_mem, hword,
    mem_words_iff]
  exact ⟨fun h w => ⟨h.1 w, h.2 w⟩, fun h => ⟨fun w => (h w).mp, fun w => (h w).mpr⟩⟩

/-! ### Lists that differ in nothing that matters -/

/-- Entries that are equal but for case, or but for blanks around them. -/
inductive AlikeEntry : List Char → List Char → Prop
  | lower {e e' : List Char} :
      Text.lower (String.ofList e) = Text.lower (String.ofList e') → AlikeEntry e e'
  | upper {e e' : List Char} :
      Text.upper (String.ofList e) = Text.upper (String.ofList e') → AlikeEntry e e'
  | trimmed {e e' : List Char} : Text.trimChars e = Text.trimChars e' → AlikeEntry e e'

/-- Lists of entries that are equal but for order, case, blanks around entries, empty entries and
repetitions. -/
inductive Alike : List (List Char) → List (List Char) → Prop
  | reordered {l l' : List (List Char)} : l.Perm l' → Alike l l'
  | changed {e e' : List Char} (l : List (List Char)) :
      AlikeEntry e e' → Alike (e :: l) (e' :: l)
  | emptied {e : List Char} (l : List (List Char)) : Text.trimChars e = [] → Alike (e :: l) l
  | repeated {e : List Char} {l : List (List Char)} : e ∈ l → Alike (e :: l) l
  | symm {l l' : List (List Char)} : Alike l l' → Alike l' l
  | trans {l l' l'' : List (List Char)} : Alike l l' → Alike l' l'' → Alike l l''

theorem wordOf_eq_trimChars (e : List Char) :
    wordOf e = String.ofList (Text.trimChars (e.flatMap Text.lowerLetter)) := by
  rw [Text.leavesBlanks_lowerLetter.trimChars_flatMap, wordOf, Text.lower, String.toList_ofList]

/-- A word of plain letters can as well be found in upper case. -/
theorem wordOf_eq_iff_upper {e : List Char} {w : String}
    (h : ∀ c ∈ w.toList, c ∈ Text.plainLetters) :
    wordOf e = w ↔ String.ofList (Text.trimChars (e.flatMap Text.upperLetter)) =
      String.ofList (w.toList.map Char.toUpper) := by
  rw [Text.leavesBlanks_upperLetter.trimChars_flatMap, wordOf, Text.lower_eq_iff_upper_eq h,
    Text.upper, String.toList_ofList]

/-- Alike entries stand for the same words of plain letters. -/
theorem AlikeEntry.wordOf_eq_iff {e e' : List Char} (h : AlikeEntry e e') {w : String}
    (hw : ∀ c ∈ w.toList, c ∈ Text.plainLetters) : wordOf e = w ↔ wordOf e' = w := by
  cases h with
  | lower h =>
    rw [Text.lower, Text.lower, String.toList_ofList, String.toList_ofList, String.ofList_inj] at h
    rw [wordOf_eq_trimChars, wordOf_eq_trimChars, h]
  | upper h =>
    rw [Text.upper, Text.upper, String.toList_ofList, String.toList_ofList, String.ofList_inj] at h
    rw [wordOf_eq_iff_upper hw, wordOf_eq_iff_upper hw, h]
  | trimmed h => rw [wordOf, wordOf, h]

theorem plain_of_mem_actions {p : CleanupPolicy} {w : String} (h : w ∈ p.actions) :
    w ≠ "" ∧ ∀ c ∈ w.toList, c ∈ Text.plainLetters := by
  have hall : ∀ w ∈ p.actions, w ≠ "" ∧ w.toList.all (Text.plainLetters.contains ·) = true := by
    cases p <;> decide
  obtain ⟨hne, hplain⟩ := hall w h
  exact ⟨hne, by simpa using hplain⟩

/-- A list means a policy if all entries are empty or one of its actions, and each action is an
entry. -/
theorem means_iff {l : List (List Char)} {p : CleanupPolicy} :
    Means l p ↔ (∀ e ∈ l, wordOf e = "" ∨ ∃ w ∈ p.actions, wordOf e = w) ∧
      ∀ w ∈ p.actions, ∃ e ∈ l, wordOf e = w := by
  constructor
  · intro h
    refine ⟨fun e he => ?_, fun w hw => ((h w).mpr hw).2⟩
    by_cases hempty : wordOf e = ""
    · exact .inl hempty
    · exact .inr ⟨wordOf e, (h _).mp ⟨hempty, e, he, rfl⟩, rfl⟩
  · rintro ⟨hentries, hactions⟩ w
    refine ⟨?_, fun hw => ⟨(plain_of_mem_actions hw).1, hactions w hw⟩⟩
    rintro ⟨hne, e, he, rfl⟩
    obtain ⟨w, hw, heq⟩ := (hentries e he).resolve_left hne
    rw [heq]
    exact hw

/-- **What a list means does not depend on the order of its entries, on case, on blanks around
entries, on empty entries or on repetitions.** -/
theorem Alike.means_iff {l l' : List (List Char)} (h : Alike l l') (p : CleanupPolicy) :
    Means l p ↔ Means l' p := by
  induction h with
  | reordered hperm =>
    simp only [CleanupPolicy.means_iff, hperm.mem_iff]
  | @changed e e' l halike =>
    have hempty : wordOf e = "" ↔ wordOf e' = "" := halike.wordOf_eq_iff (by simp)
    have haction : ∀ w ∈ p.actions, (wordOf e = w ↔ wordOf e' = w) := fun w hw =>
      halike.wordOf_eq_iff (plain_of_mem_actions hw).2
    simp only [CleanupPolicy.means_iff, List.forall_mem_cons, List.exists_mem_cons_iff]
    refine and_congr (and_congr (or_congr hempty ?_) .rfl) ?_
    · exact exists_congr fun w => and_congr_right (haction w)
    · exact forall₂_congr fun w hw => or_congr (haction w hw) .rfl
  | @emptied e l hblank =>
    have hword : wordOf e = "" := by rw [wordOf, hblank]; rfl
    simp only [CleanupPolicy.means_iff, List.forall_mem_cons, List.exists_mem_cons_iff, hword]
    refine and_congr (and_iff_right (.inl trivial)) (forall₂_congr fun w hw => ?_)
    exact or_iff_right (plain_of_mem_actions hw).1.symm
  | repeated hmem =>
    simp only [CleanupPolicy.means_iff, List.forall_mem_cons, List.exists_mem_cons_iff]
    refine and_congr (and_iff_right_of_imp fun h => h _ hmem) (forall₂_congr fun w _ => ?_)
    exact or_iff_right_of_imp fun h => ⟨_, hmem, h⟩
  | symm _ ih => exact ih.symm
  | trans _ _ ih ih' => exact ih.trans ih'

/-! ### The reader and the drift -/

/-- The policy of a live configuration is out of line if its text does not mean the wanted one. -/
theorem configKey_notMem_drift_iff {spec : TopicSpec} {live : TextMap} {s : String}
    (h : live.get? configKey = some s) :
    configKey ∉ (spec.drift live).map (·.key) ↔ Means (entries s) spec.cleanupPolicy := by
  have howned : (configKey, spec.cleanupPolicy.word) ∈ spec.owned := List.mem_cons_self
  rw [TopicSpec.key_mem_drift_iff howned, Classical.not_not, TopicSpec.InLine, h,
    ← sameWords_word_iff]
  simp [TopicSpec.agrees]

/-- **The reader of policies and the drift agree**: a text is read as a policy exactly if a live
configuration with this text does not drift from the policy.  So a text that cannot be read drifts
from all policies.  Order, case, blanks around entries, empty entries and repetitions matter to
neither. -/
theorem read_agrees_with_drift (s : String) :
    (∀ (spec : TopicSpec) (live : TextMap), live.get? configKey = some s →
      (read s = .ok spec.cleanupPolicy ↔ configKey ∉ (spec.drift live).map (·.key))) ∧
    ((∃ fault, read s = .error fault) ↔
      ∀ (spec : TopicSpec) (live : TextMap), live.get? configKey = some s →
        configKey ∈ (spec.drift live).map (·.key)) ∧
    ∀ s', Alike (entries s) (entries s') →
      (∀ p, read s = .ok p ↔ read s' = .ok p) ∧
      ∀ (spec : TopicSpec) (live live' : TextMap), live.get? configKey = some s →
        live'.get? configKey = some s' →
          (configKey ∈ (spec.drift live).map (·.key) ↔ configKey ∈ (spec.drift live').map (·.key)) := by
  have hagree : ∀ (spec : TopicSpec) (live : TextMap), live.get? configKey = some s →
      (read s = .ok spec.cleanupPolicy ↔ configKey ∉ (spec.drift live).map (·.key)) :=
    fun spec live hs => read_eq_ok_iff.trans (configKey_notMem_drift_iff hs).symm
  refine ⟨hagree, ⟨?_, ?_⟩, fun s' halike => ⟨fun p => ?_, fun spec live live' hs hs' => ?_⟩⟩
  · rintro ⟨fault, hfault⟩ spec live hs
    refine Classical.byContradiction fun hout => ?_
    rw [(hagree spec live hs).mpr hout] at hfault
    cases hfault
  · intro hdrift
    cases hread : read s with
    | error fault => exact ⟨fault, rfl⟩
    | ok p =>
      -- there is a configuration with this text and a shape of this policy
      have hlive : (TextMap.empty.insert configKey s).get? configKey = some s := by simp
      exact absurd (hdrift ⟨"", 1, 1, ⟨0⟩, p, Nat.one_pos, Nat.one_pos⟩ _ hlive)
        ((hagree _ _ hlive).mp hread)
  · rw [read_eq_ok_iff, read_eq_ok_iff, halike.means_iff]
  · rw [← not_iff_not, configKey_notMem_drift_iff hs, configKey_notMem_drift_iff hs',
      halike.means_iff]

/-- A list in mixed case, with blanks and an empty entry, is alike to the list of the policy that it
is read as, and does not drift from it. -/
theorem read_agrees_with_drift_of_mixedCase :
    Alike (entries " Compact,,DELETE") (entries "compact,delete") ∧
    read "compact,delete" = .ok .compactDelete ∧
    read " Compact,,DELETE" = .ok .compactDelete ∧
    (TextMap.empty.insert configKey " Compact,,DELETE").get? configKey = some " Compact,,DELETE" ∧
    configKey ∉ (TopicSpec.drift ⟨"metrics", 2, 1, ⟨0⟩, .compactDelete, Nat.two_pos, Nat.one_pos⟩
      (TextMap.empty.insert configKey " Compact,,DELETE")).map (·.key) := by
  have halike : Alike (entries " Compact,,DELETE") (entries "compact,delete") := by
    have hsplit : entries " Compact,,DELETE" =
        [" Compact".toList, "".toList, "DELETE".toList] := by decide +kernel
    have hplain : entries "compact,delete" = ["compact".toList, "delete".toList] := by
      decide +kernel
    rw [hsplit, hplain]
    have htrimmed : AlikeEntry " Compact".toList "Compact".toList := .trimmed (by decide +kernel)
    have hcompact : AlikeEntry "Compact".toList "compact".toList := .lower (by decide +kernel)
    have hdelete : AlikeEntry "DELETE".toList "delete".toList := .upper (by decide +kernel)
    have hrest : Alike ["".toList, "DELETE".toList, "compact".toList]
        ["delete".toList, "compact".toList] :=
      .trans (.emptied _ (by decide)) (.changed _ hdelete)
    have hfirst : Alike [" Compact".toList, "".toList, "DELETE".toList]
        ["compact".toList, "".toList, "DELETE".toList] :=
      .trans (.changed _ htrimmed) (.changed _ hcompact)
    refine hfirst.trans (.trans (.reordered ?_) (hrest.trans (.reordered (List.Perm.swap _ _ _))))
    exact List.perm_append_singleton _ ["".toList, "DELETE".toList] |>.symm
  have hread : read "compact,delete" = .ok .compactDelete := by decide
  have hmixed : read " Compact,,DELETE" = .ok .compactDelete :=
    (((read_agrees_with_drift " Compact,,DELETE").2.2 _ halike).1 _).mpr hread
  have hlive : (TextMap.empty.insert configKey " Compact,,DELETE").get? configKey =
      some " Compact,,DELETE" := by simp
  exact ⟨halike, hread, hmixed, hlive,
    ((read_agrees_with_drift " Compact,,DELETE").1 _ _ hlive).mp hmixed⟩

end CleanupPolicy

end MetricFeed
