/-
MetricFeed/Proofs/Topic/Drift.lean

What the drift of a live configuration says, and what comes of making its changes.

An owned key is in line (`TopicSpec.InLine`) if it has a live value that means the same as the
wanted one.  The drift sets exactly the owned keys that are out of line to their wanted values
(`mem_drift_iff`), and a wanted value means the same as itself (`agrees_wanted`): the number of the
retention has no blanks to trim, and a policy's words are their own set.

Main result (`drift_applyChanges`): changes that set owned keys to their wanted values leave no
drift, provided that each key which they do not set is in line.  The changes need not be the drift
of the very configuration that they are made to, so it also serves agents that make their changes
to a configuration which others have changed in the meantime.
-/
import MetricFeed.Topic.Spec

namespace MetricFeed

/-! ### Wanted values mean the same as themselves -/

theorem CleanupPolicy.sameWords_self (s : String) : sameWords s s = true := by
  have h : (words s).all ((words s).contains ·) = true := by
    rw [List.all_eq_true]
    intro w hw
    simpa using hw
  simp only [sameWords, h, Bool.and_self]

namespace Text

theorem isBlank_of_isDigit {c : Char} (h : c.isDigit = true) : isBlank c = false := by
  have hc : 48 ≤ c.toNat ∧ c.toNat ≤ 57 := by
    simpa [Char.isDigit, UInt32.le_iff_toNat_le] using h
  simp only [isBlank, Bool.or_eq_false_iff, Bool.and_eq_false_iff, decide_eq_false_iff_not,
    beq_eq_false_iff_ne]
  omega

/-- A text without blanks has none at its ends. -/
theorem trim_of_noBlank {s : String} (h : ∀ c ∈ s.toList, isBlank c = false) : trim s = s := by
  have hd : ∀ cs : List Char, (∀ c ∈ cs, isBlank c = false) → cs.dropWhile isBlank = cs := by
    intro cs hcs
    cases cs with
    | nil => rfl
    | cons c r => simp [hcs c List.mem_cons_self]
  have hend : dropBlankEnd s.toList = s.toList := by
    have hr := hd s.toList.reverse fun c hc => h c (List.mem_reverse.mp hc)
    simp only [dropBlankEnd, hr, List.reverse_reverse]
  simp only [trim, trimChars, hd s.toList h, hend, String.ofList_toList]

theorem trim_toString (n : Nat) : trim (toString n) = toString n := by
  apply trim_of_noBlank
  intro c hc
  have hdigits : c ∈ Nat.toDigits 10 n := by
    simpa [Nat.toList_repr] using hc
  exact isBlank_of_isDigit (Nat.isDigit_of_mem_toDigits (by decide) (by decide) hdigits)

end Text

namespace TopicSpec

variable {spec : TopicSpec} {live : TextMap} {e : String × String}

theorem configKey_ne_retentionKey : CleanupPolicy.configKey ≠ retentionKey := by decide

theorem agrees_wanted (he : e ∈ spec.owned) : agrees e.1 e.2 e.2 = true := by
  simp only [owned, List.mem_cons, List.not_mem_nil, or_false] at he
  rcases he with rfl | rfl
  · simp [agrees, CleanupPolicy.sameWords_self]
  · have htrim : Text.trim spec.retentionText = spec.retentionText := Text.trim_toString _
    simp [agrees, configKey_ne_retentionKey.symm, htrim]

/-- An owned key has one wanted value. -/
theorem owned_unique {e' : String × String} (he : e ∈ spec.owned) (he' : e' ∈ spec.owned)
    (hkey : e.1 = e'.1) : e = e' := by
  simp only [owned, List.mem_cons, List.not_mem_nil, or_false] at he he'
  rcases he with rfl | rfl <;> rcases he' with rfl | rfl
  · rfl
  · exact absurd hkey configKey_ne_retentionKey
  · exact absurd hkey.symm configKey_ne_retentionKey
  · rfl

/-! ### Keys in line -/

/-- A key has a live value that means the same as the wanted one. -/
def InLine (live : TextMap) (key wanted : String) : Prop :=
  ∃ current, live.get? key = some current ∧ agrees key current wanted = true

theorem inLine_of_get? (he : e ∈ spec.owned) (h : live.get? e.1 = some e.2) :
    InLine live e.1 e.2 :=
  ⟨e.2, h, agrees_wanted he⟩

theorem outOfLine_iff {key wanted : String} :
    (match live.get? key with
      | some current => !agrees key current wanted
      | none => true) = true ↔ ¬ InLine live key wanted := by
  cases h : live.get? key with
  | none => simp [InLine, h]
  | some current => simp [InLine, h]

/-- The drift sets the owned keys that are out of line. -/
theorem mem_drift_iff {c : ConfigChange} :
    c ∈ spec.drift live ↔ ∃ e ∈ spec.owned, ¬ InLine live e.1 e.2 ∧ c = ⟨e.1, .set e.2⟩ := by
  unfold drift
  rw [List.mem_map]
  constructor
  · rintro ⟨e, hmem, rfl⟩
    obtain ⟨he, hout⟩ := List.mem_filter.mp hmem
    exact ⟨e, he, outOfLine_iff.mp hout, rfl⟩
  · rintro ⟨e, he, hout, rfl⟩
    exact ⟨e, List.mem_filter.mpr ⟨he, outOfLine_iff.mpr hout⟩, rfl⟩

theorem drift_eq_nil_iff :
    spec.drift live = [] ↔ ∀ e ∈ spec.owned, InLine live e.1 e.2 := by
  rw [List.eq_nil_iff_forall_not_mem]
  constructor
  · intro h e he
    apply Classical.byContradiction
    intro hout
    exact h _ (mem_drift_iff.mpr ⟨e, he, hout, rfl⟩)
  · intro h c hc
    obtain ⟨e, he, hout, -⟩ := mem_drift_iff.mp hc
    exact hout (h e he)

/-! ### Making changes -/

/-- Changes that set owned keys to their wanted values, and do nothing else. -/
def Sets (spec : TopicSpec) (changes : List ConfigChange) : Prop :=
  ∀ c ∈ changes, ∃ e ∈ spec.owned, c = ⟨e.1, .set e.2⟩

theorem drift_sets (spec : TopicSpec) (live : TextMap) : spec.Sets (spec.drift live) := by
  intro c hc
  obtain ⟨e, he, -, hce⟩ := mem_drift_iff.mp hc
  exact ⟨e, he, hce⟩

theorem get?_apply_of_ne {c : ConfigChange} {key : String} (h : key ≠ c.key) :
    (c.apply live).get? key = live.get? key := by
  unfold ConfigChange.apply
  cases c.action with
  | set value => simp [h]
  | delete => simp [h]

/-- A key that no change concerns keeps its value. -/
theorem get?_applyChanges_of_notMem {changes : List ConfigChange} {key : String}
    (h : key ∉ changes.map (·.key)) : (applyChanges live changes).get? key = live.get? key := by
  induction changes generalizing live with
  | nil => rfl
  | cons c rest ih =>
    obtain ⟨hc, hrest⟩ : key ≠ c.key ∧ key ∉ rest.map (·.key) := by
      simpa using h
    calc (applyChanges (c.apply live) rest).get? key
        = (c.apply live).get? key := ih hrest
      _ = live.get? key := get?_apply_of_ne hc

/-- A key that is set has its wanted value in the end. -/
theorem get?_applyChanges_of_mem {changes : List ConfigChange} (hs : spec.Sets changes)
    (he : e ∈ spec.owned) (hmem : e.1 ∈ changes.map (·.key)) :
    (applyChanges live changes).get? e.1 = some e.2 := by
  induction changes generalizing live with
  | nil => cases hmem
  | cons c rest ih =>
    show (applyChanges (c.apply live) rest).get? e.1 = some e.2
    by_cases hrest : e.1 ∈ rest.map (·.key)
    · exact ih (fun c' hc' => hs c' (List.mem_cons_of_mem _ hc')) hrest
    · -- this is the last change of the key, and it sets the wanted value
      have hkey : e.1 = c.key := (List.mem_cons.mp hmem).resolve_right hrest
      obtain ⟨e', he', rfl⟩ := hs c List.mem_cons_self
      obtain rfl := owned_unique he he' hkey
      rw [get?_applyChanges_of_notMem hrest]
      simp [ConfigChange.apply]

/-- Keys in line stay in line, and keys that are set come into line. -/
theorem inLine_applyChanges {changes : List ConfigChange} (hs : spec.Sets changes)
    (he : e ∈ spec.owned) (h : e.1 ∈ changes.map (·.key) ∨ InLine live e.1 e.2) :
    InLine (applyChanges live changes) e.1 e.2 := by
  by_cases hmem : e.1 ∈ changes.map (·.key)
  · exact inLine_of_get? he (get?_applyChanges_of_mem hs he hmem)
  · obtain ⟨current, hcurrent, hagrees⟩ := h.resolve_left hmem
    exact ⟨current, (get?_applyChanges_of_notMem hmem).trans hcurrent, hagrees⟩

/-- **Changes remove the drift** if all keys that they do not set are in line. -/
theorem drift_applyChanges {changes : List ConfigChange} (hs : spec.Sets changes)
    (h : ∀ e ∈ spec.owned, e.1 ∈ changes.map (·.key) ∨ InLine live e.1 e.2) :
    spec.drift (applyChanges live changes) = [] :=
  drift_eq_nil_iff.mpr fun e he => inLine_applyChanges hs he (h e he)

/-- The drift sets an owned key exactly if it is out of line. -/
theorem key_mem_drift_iff (he : e ∈ spec.owned) :
    e.1 ∈ (spec.drift live).map (·.key) ↔ ¬ InLine live e.1 e.2 := by
  rw [List.mem_map]
  constructor
  · rintro ⟨c, hc, hkey⟩
    obtain ⟨e', he', hout, rfl⟩ := mem_drift_iff.mp hc
    obtain rfl := owned_unique he' he hkey
    exact hout
  · exact fun hout => ⟨_, mem_drift_iff.mpr ⟨e, he, hout, rfl⟩, rfl⟩

/-- An owned key is in line, or the drift sets it. -/
theorem mem_drift_or_inLine (he : e ∈ spec.owned) :
    e.1 ∈ (spec.drift live).map (·.key) ∨ InLine live e.1 e.2 := by
  rw [key_mem_drift_iff he]
  exact (Classical.em _).symm

/-- Changes of owned keys leave all other keys alone. -/
theorem get?_applyChanges_of_not_owned {changes : List ConfigChange} (hs : spec.Sets changes)
    {key : String} (hp : key ≠ CleanupPolicy.configKey) (hr : key ≠ retentionKey) :
    (applyChanges live changes).get? key = live.get? key := by
  apply get?_applyChanges_of_notMem
  intro hmem
  obtain ⟨c, hc, rfl⟩ := List.mem_map.mp hmem
  obtain ⟨e, he, rfl⟩ := hs c hc
  simp only [owned, List.mem_cons, List.not_mem_nil, or_false] at he
  rcases he with rfl | rfl
  · exact hp rfl
  · exact hr rfl

/-! ### The configuration of a topic made to a shape -/

theorem get?_configs (spec : TopicSpec) (key : String) :
    spec.configs.get? key =
      if key = retentionKey then some spec.retentionText
      else if key = CleanupPolicy.configKey then some spec.cleanupPolicy.word else none := by
  simp [configs, owned, TextMap.ofList]

/-- A topic made to a shape has no drift from it. -/
theorem drift_configs (spec : TopicSpec) : spec.drift spec.configs = [] := by
  refine drift_eq_nil_iff.mpr fun e he => inLine_of_get? he ?_
  rw [get?_configs]
  simp only [owned, List.mem_cons, List.not_mem_nil, or_false] at he
  rcases he with rfl | rfl
  · simp [configKey_ne_retentionKey]
  · simp

end TopicSpec

end MetricFeed
