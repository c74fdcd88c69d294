/-
MetricFeed/Proofs/Topic/Minimality.lean

The drift of a live configuration is exact and minimal.

It says of each owned key whether the live text means what is wanted
(`TopicSpec.mem_drift_iff_text`): the retention is read as a trimmed number, the policy as a set of
words.  The changes are all needed: whatever changes bring a configuration in line, they concern
every key of the drift (`TopicSpec.keys_drift_subset`).

Main result (`TopicSpec.drift_exact_and_minimal`), on every wanted shape and every live
configuration, in particular on one that a broker holds and alters.
-/
import Mathlib.Data.List.Nodup
import MetricFeed.Broker.Admin
import MetricFeed.Proofs.Topic.CleanupPolicy

namespace MetricFeed

/-! ### Configurations that a broker alters -/

namespace Broker

variable {τ : Type} {b : Broker τ} {topic : String} {live : TextMap}

/-- A broker makes the changes to the configuration that it describes. -/
theorem describeConfig_alterConfig (h : b.describeConfig topic = .ok live)
    (changes : List ConfigChange) :
    (b.alterConfig topic changes).1 = .ok () ∧
      (b.alterConfig topic changes).2.describeConfig topic = .ok (applyChanges live changes) := by
  unfold describeConfig at h
  cases ht : b.topic? topic with
  | none =>
    rw [ht] at h
    cases h
  | some t =>
    rw [ht] at h
    cases h
    have hget : b.topics.get? topic = some t := ht
    simp [alterConfig, describeConfig, topic?, hget]

end Broker

namespace TopicSpec

variable {spec : TopicSpec} {live : TextMap}

/-! ### What the drift says about the live texts -/

theorem inLine_retention_iff {wanted : String} :
    InLine live retentionKey wanted ↔
      ∃ current, live.get? retentionKey = some current ∧ Text.trim current = wanted := by
  simp [InLine, agrees, configKey_ne_retentionKey.symm]

theorem inLine_policy_iff {p : CleanupPolicy} :
    InLine live CleanupPolicy.configKey p.word ↔
      ∃ current, live.get? CleanupPolicy.configKey = some current ∧
        CleanupPolicy.Means (CleanupPolicy.entries current) p := by
  simp [InLine, agrees, CleanupPolicy.sameWords_word_iff]

/-- The changes of the drift, by what the live texts say. -/
theorem mem_drift_iff_text {c : ConfigChange} :
    c ∈ spec.drift live ↔
      (c = ⟨CleanupPolicy.configKey, .set spec.cleanupPolicy.word⟩ ∧
        ¬ ∃ current, live.get? CleanupPolicy.configKey = some current ∧
          CleanupPolicy.Means (CleanupPolicy.entries current) spec.cleanupPolicy) ∨
      (c = ⟨retentionKey, .set (toString spec.retention.wholeMillis)⟩ ∧
        ¬ ∃ current, live.get? retentionKey = some current ∧
          Text.trim current = toString spec.retention.wholeMillis) := by
  rw [mem_drift_iff, ← inLine_policy_iff, ← inLine_retention_iff]
  simp only [owned, retentionText, List.mem_cons, List.not_mem_nil, or_false]
  constructor
  · rintro ⟨e, rfl | rfl, hout, rfl⟩
    · exact .inl ⟨rfl, hout⟩
    · exact .inr ⟨rfl, hout⟩
  · rintro (⟨rfl, hout⟩ | ⟨rfl, hout⟩)
    · exact ⟨_, .inl rfl, hout, rfl⟩
    · exact ⟨_, .inr rfl, hout, rfl⟩

/-- There is no drift exactly if the live texts mean what is wanted. -/
theorem drift_eq_nil_iff_text :
    spec.drift live = [] ↔
      (∃ current, live.get? retentionKey = some current ∧
        Text.trim current = toString spec.retention.wholeMillis) ∧
      ∃ current, live.get? CleanupPolicy.configKey = some current ∧
        CleanupPolicy.Means (CleanupPolicy.entries current) spec.cleanupPolicy := by
  rw [drift_eq_nil_iff, ← inLine_policy_iff, ← inLine_retention_iff]
  simp only [owned, retentionText, List.forall_mem_cons, List.not_mem_nil, false_implies,
    implies_true, and_true]
  exact and_comm

/-- The keys of the drift ascend. -/
theorem keys_drift_ascending (spec : TopicSpec) (live : TextMap) :
    ((spec.drift live).map (·.key)).Pairwise (· < ·) := by
  have howned : (spec.owned.map (·.1)).Pairwise (· < ·) := by
    simp only [owned, List.map_cons, List.map_nil]
    decide
  unfold drift
  rw [List.map_map]
  exact howned.sublist ((List.filter_sublist).map _)

/-! ### All changes of the drift are needed -/

/-- Changes that leave a key alone leave it in line or out of line. -/
theorem inLine_applyChanges_iff {changes : List ConfigChange} {key wanted : String}
    (h : key ∉ changes.map (·.key)) :
    InLine (applyChanges live changes) key wanted ↔ InLine live key wanted := by
  rw [InLine, InLine, get?_applyChanges_of_notMem h]

/-- **Changes that leave no drift concern all its keys.** -/
theorem keys_drift_subset {changes : List ConfigChange}
    (h : spec.drift (applyChanges live changes) = []) :
    (spec.drift live).map (·.key) ⊆ changes.map (·.key) := by
  intro key hkey
  obtain ⟨c, hc, rfl⟩ := List.mem_map.mp hkey
  obtain ⟨e, he, hout, rfl⟩ := mem_drift_iff.mp hc
  refine Classical.byContradiction fun hnot => hout ?_
  exact (inLine_applyChanges_iff hnot).mp (drift_eq_nil_iff.mp h e he)

/-- The drift without one of its changes does not bring the configuration in line. -/
theorem drift_applyChanges_ne_nil {before after : List ConfigChange} {c : ConfigChange}
    (h : spec.drift live = before ++ c :: after) :
    spec.drift (applyChanges live (before ++ after)) ≠ [] := by
  intro hnil
  have hnodup : ((spec.drift live).map (·.key)).Nodup :=
    (keys_drift_ascending spec live).imp String.ne_of_lt
  have hmem : c.key ∈ (before ++ after).map (·.key) :=
    keys_drift_subset hnil (by simp [h])
  rw [h, List.map_append, List.map_cons, List.nodup_middle, List.nodup_cons,
    ← List.map_append] at hnodup
  exact hnodup.1 hmem

/-- **The drift is exact and minimal.**  Its keys ascend, so none occurs twice; it sets a policy
that is missing or names other actions than the wanted ones, and a retention that is missing or
another number; it brings the configuration in line, leaves all other keys alone, and none of its
changes can be left out; and a topic made to the wanted shape does not drift.  The changes are those
that a broker makes. -/
theorem drift_exact_and_minimal (spec : TopicSpec) (live : TextMap) :
    ((spec.drift live).map (·.key)).Pairwise (· < ·) ∧
    (∀ c, c ∈ spec.drift live ↔
      (c = ⟨CleanupPolicy.configKey, .set spec.cleanupPolicy.word⟩ ∧
        ¬ ∃ current, live.get? CleanupPolicy.configKey = some current ∧
          CleanupPolicy.Means (CleanupPolicy.entries current) spec.cleanupPolicy) ∨
      (c = ⟨retentionKey, .set (toString spec.retention.wholeMillis)⟩ ∧
        ¬ ∃ current, live.get? retentionKey = some current ∧
          Text.trim current = toString spec.retention.wholeMillis)) ∧
    spec.drift (applyChanges live (spec.drift live)) = [] ∧
    (∀ key, key ∉ (spec.drift live).map (·.key) →
      (applyChanges live (spec.drift live)).get? key = live.get? key) ∧
    (∀ before c after, spec.drift live = before ++ c :: after →
      spec.drift (applyChanges live (before ++ after)) ≠ []) ∧
    (∀ changes, spec.drift (applyChanges live changes) = [] →
      (spec.drift live).map (·.key) ⊆ changes.map (·.key)) ∧
    (∀ (τ : Type) (b : Broker τ) (topic : String), b.describeConfig topic = .ok live →
      ∀ changes, (b.alterConfig topic changes).1 = .ok () ∧
        (b.alterConfig topic changes).2.describeConfig topic = .ok (applyChanges live changes)) ∧
    spec.drift spec.configs = [] :=
  ⟨keys_drift_ascending spec live,
    fun _ => mem_drift_iff_text,
    drift_applyChanges (drift_sets spec live) fun _ => mem_drift_or_inLine,
    fun _ => get?_applyChanges_of_notMem,
    fun _ _ _ => drift_applyChanges_ne_nil,
    fun _ => keys_drift_subset,
    fun _ _ _ h changes => Broker.describeConfig_alterConfig h changes,
    drift_configs spec⟩

/-- A topic whose retention is only written with blanks around it, but whose policy is another one:
the policy is set, which is needed, and the retention stays as it is written. -/
theorem drift_exact_and_minimal_of_otherPolicy :
    let spec : TopicSpec := ⟨"metrics", 2, 1, .ofMillis 1000, .delete, Nat.two_pos, Nat.one_pos⟩
    let live := (TextMap.empty.insert retentionKey " 1000 ").insert CleanupPolicy.configKey "compact"
    let set : ConfigChange := ⟨CleanupPolicy.configKey, .set "delete"⟩
    let b := ({} : Broker Unit).withTopic "metrics" 2 live
    spec.drift live = [] ++ set :: [] ∧
    spec.drift (applyChanges live []) ≠ [] ∧
    (applyChanges live (spec.drift live)).get? retentionKey = some " 1000 " ∧
    b.describeConfig "metrics" = .ok live ∧
    (b.alterConfig "metrics" [set]).2.describeConfig "metrics" = .ok (applyChanges live [set]) := by
  intro spec live set b
  have hdrift : spec.drift live = [] ++ set :: [] := by decide +kernel
  have hretention : retentionKey ∉ (spec.drift live).map (·.key) := by rw [hdrift]; decide
  have hdescribe : b.describeConfig "metrics" = .ok live := rfl
  obtain ⟨-, -, -, hkeep, hneeded, -, hbroker, -⟩ := drift_exact_and_minimal spec live
  refine ⟨hdrift, hneeded _ _ _ hdrift, ?_, hdescribe, (hbroker _ b "metrics" hdescribe [set]).2⟩
  rw [hkeep retentionKey hretention]
  decide

end TopicSpec

end MetricFeed
