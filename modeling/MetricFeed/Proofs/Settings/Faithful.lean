/-
MetricFeed/Proofs/Settings/Faithful.lean

Settings that say what was set (`Settings.Faithful`): the node, the interval, the topic and the
producer are what the texts of the lookup denote, without the blanks around them, and the documented
defaults where the lookup holds no text.

Main result (`Settings.load_faithful`): loaded settings are faithful to their lookup and stay so
when more values are filled in for the producer.
-/
import MetricFeed.Proofs.Settings.Producer
import MetricFeed.Proofs.Topic.CleanupPolicy
import MetricFeed.Settings.Agent

namespace MetricFeed

variable {l : Lookup}

/-! ### The topic -/

namespace TopicSettings

/-- The settings of the topic are what the lookup yields for them. -/
structure Faithful (l : Lookup) (s : TopicSettings) : Prop where
  name : l.Yields nameProperty (fun text name => name = text) "__BrokerMetrics" s.name
  name_ne : s.name ≠ ""
  name_trimmed : Text.trim s.name = s.name
  autoCreate : l.Yields autoCreateProperty (fun text b => text = toString b) false s.autoCreate
  partitions : l.Yields partitionsProperty Text.Denotes (-1) s.partitions.toInt
  replication : l.Yields replicationProperty Text.Denotes (-1) s.replication.toInt
  retention : ∃ ms : Nat, s.retention = .ofMillis ms ∧
    l.Yields retentionProperty Text.Denotes 18000000 ms
  cleanupPolicy : l.Yields cleanupPolicyProperty (fun text p => CleanupPolicy.read text = .ok p)
    .delete s.cleanupPolicy

theorem yields_of_loadPolicy {p : CleanupPolicy} (h : loadPolicy l = .ok p) :
    l.Yields cleanupPolicyProperty (fun text p => CleanupPolicy.read text = .ok p) .delete p := by
  unfold loadPolicy at h
  split at h
  · rename_i raw hraw
    exact .of_some hraw (CleanupPolicy.read_trim_eq_ok_iff.mpr h)
  · rename_i hnone
    cases h
    exact .of_none hnone

/-- A name is loaded as it is set, without blanks around it. -/
theorem name_of_loadName {name : String} (h : loadName l = .ok name) :
    l.Yields nameProperty (fun text name => name = text) "__BrokerMetrics" name ∧ name ≠ "" ∧
      Text.trim name = name := by
  unfold loadName at h
  cases hraw : l nameProperty with
  | none =>
    rw [hraw] at h
    cases h
    exact ⟨.of_none hraw, by decide, by decide +kernel⟩
  | some raw =>
    rw [hraw] at h
    -- a name of nothing but blanks is refused
    by_cases hempty : Text.trim raw = ""
    · rw [Option.map_some, Option.getD_some, if_pos hempty] at h
      cases h
    · rw [Option.map_some, Option.getD_some, if_neg hempty] at h
      cases h
      exact ⟨.of_some hraw rfl, hempty, Text.trim_idem raw⟩

theorem faithful_of_load {s : TopicSettings} (h : load l = .ok s) : s.Faithful l := by
  obtain ⟨cleanupPolicy, hpolicy, h⟩ := exists_of_bind_eq_ok h
  obtain ⟨name, hname, h⟩ := exists_of_bind_eq_ok h
  obtain ⟨autoCreate, hauto, h⟩ := exists_of_bind_eq_ok h
  obtain ⟨partitions, hpartitions, h⟩ := exists_of_bind_eq_ok h
  obtain ⟨replication, hreplication, h⟩ := exists_of_bind_eq_ok h
  obtain ⟨retentionMs, hretention, h⟩ := exists_of_bind_eq_ok h
  cases h
  obtain ⟨hyields, hne, htrimmed⟩ := name_of_loadName hname
  -- the counts fit in their types, and the retention is not negative
  obtain ⟨hpartitionsGe, hpartitionsLe⟩ := Lookup.range_of_integerOr hpartitions (by decide)
  obtain ⟨hreplicationGe, hreplicationLe⟩ := Lookup.range_of_integerOr hreplication (by decide)
  obtain ⟨hretentionGe, -⟩ := Lookup.range_of_integerOr hretention (by decide)
  have hretentionMs : (retentionMs.toNat : Int) = retentionMs := Int.toNat_of_nonneg hretentionGe
  exact
    { name := hyields
      name_ne := hne
      name_trimmed := htrimmed
      autoCreate := Lookup.yields_of_boolOr hauto
      partitions := by
        rw [Int32.toInt_ofInt_of_le hpartitionsGe (Int.lt_of_le_sub_one hpartitionsLe)]
        exact Lookup.yields_of_integerOr hpartitions
      replication := by
        rw [Int16.toInt_ofInt_of_le hreplicationGe (Int.lt_of_le_sub_one hreplicationLe)]
        exact Lookup.yields_of_integerOr hreplication
      retention := ⟨retentionMs.toNat, rfl,
        hretentionMs.symm ▸ Lookup.yields_of_integerOr hretention⟩
      cleanupPolicy := yields_of_loadPolicy hpolicy }

end TopicSettings

/-! ### The agent -/

namespace Settings

/-- The settings are what the lookup yields for them; the node must be set. -/
structure Faithful (l : Lookup) (s : Settings) : Prop where
  nodeId : ∃ raw, l nodeIdProperty = some raw ∧ Text.Denotes (Text.trim raw) s.nodeId.toInt
  interval : ∃ ms : Nat, s.interval = .ofMillis ms ∧ 1 ≤ ms ∧ ms ≤ greatestMillis ∧
    l.Yields intervalProperty Text.Denotes 60000 ms
  producer : s.producer.Faithful l
  topic : s.topic.Faithful l

theorem denotes_of_loadNodeId {n : Int32} (h : loadNodeId l = .ok n) :
    ∃ raw, l nodeIdProperty = some raw ∧ Text.Denotes (Text.trim raw) n.toInt := by
  unfold loadNodeId at h
  split at h
  · cases h
  · rename_i raw hraw
    cases hread : Lookup.integer .i32 nodeIdProperty raw with
    | error fault =>
      rw [hread] at h
      cases h
    | ok m =>
      rw [hread] at h
      cases h
      obtain ⟨hdenotes, hleast, hgreatest⟩ := Lookup.denotes_of_integer hread
      rw [Int32.toInt_ofInt_of_le hleast (Int.lt_of_le_sub_one hgreatest)]
      exact ⟨raw, hraw, hdenotes⟩

theorem yields_of_loadInterval {d : Duration} (h : loadInterval l = .ok d) :
    ∃ ms : Nat, d = .ofMillis ms ∧ 1 ≤ ms ∧ ms ≤ greatestMillis ∧
      l.Yields intervalProperty Text.Denotes 60000 ms := by
  obtain ⟨ms, hms, h⟩ := exists_of_bind_eq_ok h
  obtain ⟨hnonneg, -⟩ := Lookup.range_of_integerOr hms (by decide)
  have hnonneg : 0 ≤ ms := hnonneg
  split at h
  · cases h
  · rename_i hrange
    cases h
    have hcast : (ms.toNat : Int) = ms := Int.toNat_of_nonneg hnonneg
    exact ⟨ms.toNat, rfl, by omega, by omega, hcast.symm ▸ Lookup.yields_of_integerOr hms⟩

theorem ok_of_inPart {α : Type} {part : SettingsPart} {r : Except SettingFault α} {a : α}
    (h : inPart part r = .ok a) : r = .ok a := by
  cases r with
  | error fault => cases h
  | ok b =>
    cases h
    rfl

/-- Settings are loaded if their parts are. -/
theorem parts_of_load {s : Settings} (h : load l = .ok s) :
    loadNodeId l = .ok s.nodeId ∧ loadInterval l = .ok s.interval ∧
      ProducerSettings.load l = .ok s.producer ∧ TopicSettings.load l = .ok s.topic := by
  unfold load loadNoting at h
  split at h
  · cases h
  · cases h
  · -- node and interval have been read before the parts
    rename_i nodeId interval hnodeId hinterval
    obtain ⟨producer, hproducer, h⟩ := exists_of_bind_eq_ok h
    obtain ⟨topic, htopic, h⟩ := exists_of_bind_eq_ok h
    cases h
    exact ⟨ok_of_inPart hnodeId, ok_of_inPart hinterval, ok_of_inPart hproducer,
      ok_of_inPart htopic⟩

/-- **No setting is silently replaced**: loaded settings are what their lookup yields, and stay so
however many values are filled in for the producer afterwards, of which those for keys that have a
value already change nothing. -/
theorem load_faithful {s : Settings} (h : load l = .ok s) :
    (∀ entries, Faithful l { s with producer := s.producer.fillIn entries }) ∧
      ∀ before key value after, (s.producer.fillIn before).contains key = true →
        s.producer.fillIn (before ++ (key, value) :: after) =
          s.producer.fillIn (before ++ after) := by
  obtain ⟨hnodeId, hinterval, hproducer, htopic⟩ := parts_of_load h
  refine ⟨fun entries => ?_, fun before key value after hheld => ?_⟩
  · exact
      { nodeId := denotes_of_loadNodeId hnodeId
        interval := yields_of_loadInterval hinterval
        producer := ProducerSettings.faithful_of_load hproducer entries
        topic := TopicSettings.faithful_of_load htopic }
  · exact ProducerSettings.fillIn_of_contains value after hheld

/-- Settings with blanks, a sign and zeros that do not matter. -/
def untidy : TextMap :=
  .ofList [("node.id", " 7 "), ("metrics.reporter.linger.ms", " +0250"), ("port", "19092"),
    ("metrics.topic", " metrics "), ("metrics.topic.cleanup.policy", " Compact ,, delete")]

/-- With blanks, signs and zeros in the texts, and a value filled in for a key that has one. -/
theorem load_faithful_of_untidy :
    ∃ s, load (.ofMap untidy) = .ok s ∧
      s.nodeId = 7 ∧ s.producer.get? ProducerSettings.lingerMs = some " +0250" ∧
      s.producer.linger = 250 ∧
      s.producer.get? ProducerSettings.bootstrapServers = some "localhost:19092" ∧
      Faithful (.ofMap untidy)
        { s with producer := s.producer.fillIn [(ProducerSettings.lingerMs, "9")] } ∧
      (s.producer.fillIn []).contains ProducerSettings.lingerMs = true ∧
      s.producer.fillIn [(ProducerSettings.lingerMs, "9")] = s.producer := by
  have hload : (load (.ofMap untidy)).toOption.any (fun s => s.nodeId = 7 ∧
      s.producer.get? ProducerSettings.lingerMs = some " +0250" ∧ s.producer.linger = 250 ∧
      s.producer.get? ProducerSettings.bootstrapServers = some "localhost:19092") = true := by
    decide +kernel
  cases hs : load (.ofMap untidy) with
  | error fault =>
    rw [hs] at hload
    cases hload
  | ok s =>
    rw [hs] at hload
    obtain ⟨hnode, htext, hlinger, hserver⟩ := of_decide_eq_true hload
    have hheld : (s.producer.fillIn []).contains ProducerSettings.lingerMs = true := by
      rw [ProducerSettings.fillIn_nil, ProducerSettings.contains_iff, htext]
      rfl
    obtain ⟨hfaithful, hkept⟩ := load_faithful hs
    exact ⟨s, rfl, hnode, htext, hlinger, hserver, hfaithful _, hheld, hkept [] _ "9" [] hheld⟩

end Settings

end MetricFeed
