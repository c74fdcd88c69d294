/-
MetricFeed/Proofs/Settings/Interchange.lean

Settings are read from certain properties and from no others (`Settings.recognized`): lookups that
agree on these lead to the same settings or to the same fault, and to the same lines in the log.
Which settings are looked up may depend on others, so the congruences follow the loaders step by
step.

An environment holds a property under a name that is derived from the property's.  Names of small
letters and dots are told apart by what is derived from them (`Lookup.environmentName_inj`), so an
environment can say whatever a property map says (`Settings.exists_mirrors`).

Main result (`Settings.load_ofEnvironment`): settings may as well be kept in an environment as in a
property map.
-/
import Mathlib.Data.List.Nodup
import MetricFeed.Proofs.Settings.Producer
import MetricFeed.Settings.Agent

namespace MetricFeed

variable {l l' : Lookup}

/-! ### Lookups that agree -/

/-- The lookups give the same texts for these properties. -/
def Lookup.AgreeOn (properties : List String) (l l' : Lookup) : Prop :=
  ∀ property ∈ properties, l property = l' property

theorem Lookup.AgreeOn.mono {properties fewer : List String}
    (h : Lookup.AgreeOn properties l l') (hsub : fewer ⊆ properties) :
    Lookup.AgreeOn fewer l l' :=
  fun property hmem => h property (hsub hmem)

theorem Lookup.integerOr_congr {key : String} (h : l key = l' key) (kind : Text.IntegerKind)
    (default : Int) : l.integerOr kind key default = l'.integerOr kind key default := by
  rw [integerOr, integerOr, h]

theorem Lookup.boolOr_congr {key : String} (h : l key = l' key) (default : Bool) :
    l.boolOr key default = l'.boolOr key default := by
  rw [boolOr, boolOr, h]

/-! ### The producer -/

namespace ProducerSettings

/-- The properties that settings of the producer are read from. -/
def recognized : List String := portProperty :: keys.map property

theorem given_congr (h : Lookup.AgreeOn (keys.map property) l l') : given l = given l' := by
  have hget : ∀ k, (given l).get? k = (given l').get? k := by
    intro k
    rw [get?_given, get?_given]
    by_cases hk : k ∈ keys
    · rw [if_pos hk, if_pos hk, h _ (List.mem_map_of_mem hk)]
    · rw [if_neg hk, if_neg hk]
  exact congrArg ProducerSettings.mk (TextMap.ext_get? hget)

theorem withAddress_congr (h : l portProperty = l' portProperty) (s : ProducerSettings) :
    withAddress l s = withAddress l' s := by
  rw [withAddress, withAddress, localAddress, localAddress, Lookup.integerOr_congr h]

theorem loadNoting_congr (h : Lookup.AgreeOn recognized l l') : loadNoting l = loadNoting l' := by
  have hport : l portProperty = l' portProperty := h _ List.mem_cons_self
  have hkeys : Lookup.AgreeOn (keys.map property) l l' := h.mono (List.subset_cons_self _ _)
  rw [loadNoting, loadNoting, given_congr hkeys, withAddress_congr hport]

end ProducerSettings

/-! ### The topic -/

namespace TopicSettings

/-- The properties that settings of the topic are read from. -/
def recognized : List String :=
  [nameProperty, autoCreateProperty, partitionsProperty, replicationProperty, retentionProperty,
    cleanupPolicyProperty]

theorem load_congr (h : Lookup.AgreeOn recognized l l') : load l = load l' := by
  simp only [Lookup.AgreeOn, recognized, List.forall_mem_cons] at h
  obtain ⟨hname, hauto, hpartitions, hreplication, hretention, hpolicy, -⟩ := h
  rw [load, load, loadPolicy, loadPolicy, hpolicy, loadName, loadName, hname,
    Lookup.boolOr_congr hauto, Lookup.integerOr_congr hpartitions,
    Lookup.integerOr_congr hreplication, Lookup.integerOr_congr hretention]

end TopicSettings

/-! ### The agent -/

namespace Settings

/-- The properties that settings are read from. -/
def recognized : List String :=
  nodeIdProperty :: intervalProperty :: (ProducerSettings.recognized ++ TopicSettings.recognized)

/-- The outcome depends on the recognized properties alone. -/
theorem loadNoting_congr (h : Lookup.AgreeOn recognized l l') : loadNoting l = loadNoting l' := by
  have hnodeId : l nodeIdProperty = l' nodeIdProperty := h _ List.mem_cons_self
  have hinterval : l intervalProperty = l' intervalProperty :=
    h _ (List.mem_cons_of_mem _ List.mem_cons_self)
  have hrest : Lookup.AgreeOn (ProducerSettings.recognized ++ TopicSettings.recognized) l l' :=
    h.mono fun _ hmem => List.mem_cons_of_mem _ (List.mem_cons_of_mem _ hmem)
  have hproducer := ProducerSettings.loadNoting_congr (hrest.mono (List.subset_append_left _ _))
  have htopic := TopicSettings.load_congr (hrest.mono (List.subset_append_right _ _))
  rw [loadNoting, loadNoting, loadNodeId, loadNodeId, hnodeId, loadInterval, loadInterval,
    Lookup.integerOr_congr hinterval, hproducer, htopic]

theorem recognized_eq :
    recognized =
      ["node.id", "metrics.reporter.interval.ms", "port", "metrics.reporter.bootstrap.servers",
        "metrics.reporter.security.protocol", "metrics.reporter.client.id",
        "metrics.reporter.linger.ms", "metrics.reporter.batch.size", "metrics.reporter.retries",
        "metrics.reporter.compression.type", "metrics.reporter.key.serializer",
        "metrics.reporter.value.serializer", "metrics.reporter.acks", "metrics.topic",
        "metrics.topic.auto.create", "metrics.topic.num.partitions",
        "metrics.topic.replication.factor", "metrics.topic.retention.ms",
        "metrics.topic.cleanup.policy"] := by
  decide +kernel

end Settings

/-! ### Names of environment variables -/

namespace Lookup

/-- The codes of a dot and of the small letters. -/
def nameCodes : List Nat := 46 :: List.range' 97 26

/-- Nothing but dots and small letters. -/
def Plain (cs : List Char) : Prop := ∀ c ∈ cs, c.toNat ∈ nameCodes

/-- The letter of an environment variable for a character of a property name. -/
def variableLetter (c : Char) : Char :=
  if c = '.' ∨ c = '-' then '_' else c.toUpper

theorem upperLetter_of_nameCode {c : Char} (h : c.toNat ∈ nameCodes) :
    Text.upperLetter (if c = '.' ∨ c = '-' then '_' else c) = [variableLetter c] := by
  -- one code after the other: over characters there would be too many
  have hall : ∀ n ∈ nameCodes, Text.upperLetter
      (if Char.ofNat n = '.' ∨ Char.ofNat n = '-' then '_' else Char.ofNat n) =
        [variableLetter (Char.ofNat n)] := by
    decide +kernel
  have hcode := hall c.toNat h
  rwa [Char.ofNat_toNat] at hcode

theorem environmentName_eq {property : String} (h : Plain property.toList) :
    environmentName property = String.ofList (property.toList.map variableLetter) := by
  rw [environmentName, underscored, Text.upper, String.toList_ofList, List.flatMap_map,
    List.flatMap_def, List.map_congr_left fun c hc => upperLetter_of_nameCode (h c hc),
    ← List.flatMap_def, ← List.map_eq_flatMap]

theorem variableLetter_inj {c d : Char} (hc : c.toNat ∈ nameCodes) (hd : d.toNat ∈ nameCodes)
    (h : variableLetter c = variableLetter d) : c = d := by
  -- no two codes have the same letter
  have hnodup : (nameCodes.map fun n => variableLetter (Char.ofNat n)).Nodup := by
    decide +kernel
  have hcodes := List.inj_on_of_nodup_map hnodup hc hd
  rw [Char.ofNat_toNat, Char.ofNat_toNat] at hcodes
  exact Char.toNat_inj.mp (hcodes h)

theorem map_variableLetter_inj {cs ds : List Char} (hcs : Plain cs) (hds : Plain ds)
    (h : cs.map variableLetter = ds.map variableLetter) : cs = ds := by
  induction cs generalizing ds with
  | nil => exact (List.map_eq_nil_iff.mp h.symm).symm
  | cons c rest ih =>
    cases ds with
    | nil => cases h
    | cons d others =>
      obtain ⟨hc, hrest⟩ := List.forall_mem_cons.mp hcs
      obtain ⟨hd, hothers⟩ := List.forall_mem_cons.mp hds
      obtain ⟨hletter, hletters⟩ := List.cons.inj h
      rw [variableLetter_inj hc hd hletter, ih hrest hothers hletters]

/-- Plain names are told apart by their environment variables. -/
theorem environmentName_inj {p q : String} (hp : Plain p.toList) (hq : Plain q.toList)
    (h : environmentName p = environmentName q) : p = q := by
  rw [environmentName_eq hp, environmentName_eq hq, String.ofList_inj] at h
  exact String.toList_inj.mp (map_variableLetter_inj hp hq h)

end Lookup

/-! ### Property maps and environments -/

namespace Settings

theorem plain_of_recognized {property : String} (h : property ∈ recognized) :
    Lookup.Plain property.toList := by
  have hall : ∀ property ∈ recognized,
      property.toList.all (fun c => Lookup.nameCodes.contains c.toNat) = true := by
    rw [recognized_eq]
    decide +kernel
  simpa [Lookup.Plain] using hall property h

/-- A recognized property is found again from its variable. -/
theorem find?_of_recognized {property : String} (h : property ∈ recognized) :
    recognized.find? (Lookup.environmentName · = Lookup.environmentName property) =
      some property := by
  cases hfind : recognized.find? (Lookup.environmentName · =
      Lookup.environmentName property) with
  | none => exact absurd (decide_eq_true rfl) (List.find?_eq_none.mp hfind property h)
  | some found =>
    have hfound := plain_of_recognized (List.mem_of_find?_eq_some hfind)
    have hname : Lookup.environmentName found = Lookup.environmentName property := by
      simpa using List.find?_some hfind
    rw [Lookup.environmentName_inj hfound (plain_of_recognized h) hname]

/-- An environment says what a property map says: the variable of each recognized property is set to
what the map holds, if it holds anything. -/
def Mirrors (environment : String → Option String) (m : TextMap) : Prop :=
  ∀ property ∈ recognized, environment (Lookup.environmentName property) = m.get? property

/-- Any environment can be made to say what a property map says, by the variables of the recognized
properties alone: no two of them have the same. -/
theorem exists_mirrors (m : TextMap) (others : String → Option String) :
    ∃ environment, Mirrors environment m ∧
      ∀ name ∉ recognized.map Lookup.environmentName, environment name = others name := by
  refine ⟨fun name => (recognized.find? (Lookup.environmentName · = name)).elim (others name)
    m.get?, fun property hproperty => ?_, fun name hname => ?_⟩
  · -- the variable leads back to its property
    dsimp only
    rw [find?_of_recognized hproperty, Option.elim_some]
  · -- the other variables are left as they are
    have hfind : recognized.find? (Lookup.environmentName · = name) = none := by
      simpa [List.find?_eq_none] using hname
    dsimp only
    rw [hfind, Option.elim_none]

/-- **Settings may as well be kept in an environment**: an environment that says what a property map
says leads to the same settings or to the same fault, and to the same lines in the log.  Other
properties of the map and other variables do not matter. -/
theorem load_ofEnvironment (m : TextMap) (environment : String → Option String)
    (h : Mirrors environment m) :
    load (.ofEnvironment environment) = load (.ofMap m) ∧
      loadNoting (.ofEnvironment environment) = loadNoting (.ofMap m) := by
  have hagree : Lookup.AgreeOn recognized (.ofEnvironment environment) (.ofMap m) := h
  have hnoting := loadNoting_congr hagree
  exact ⟨congrArg Prod.snd hnoting, hnoting⟩

/-- Properties of which one cannot be read and one is not recognized. -/
def unreadable : TextMap :=
  .ofList [("linger", "0"), ("node.id", "7"), ("metrics.reporter.linger.ms", "soon")]

/-- The same in an environment, with a variable of another kind. -/
def unreadableEnvironment (name : String) : Option String :=
  [("HOME", "/"), ("NODE_ID", "7"), ("METRICS_REPORTER_LINGER_MS", "soon")].lookup name

/-- An unreadable setting leads to the same fault from either side, whatever else is there. -/
theorem load_ofEnvironment_of_unreadable :
    Mirrors unreadableEnvironment unreadable ∧
      load (.ofEnvironment unreadableEnvironment) = .error ⟨.producer,
        .invalidValue "linger.ms" "soon" "not a valid non-negative integer"⟩ := by
  have hmirrors : Mirrors unreadableEnvironment unreadable := by
    have hall : ∀ property ∈ recognized, unreadableEnvironment
        (String.ofList (property.toList.map Lookup.variableLetter)) = unreadable.get? property := by
      rw [recognized_eq]
      decide +kernel
    intro property hproperty
    rw [Lookup.environmentName_eq (plain_of_recognized hproperty)]
    exact hall property hproperty
  exact ⟨hmirrors, (load_ofEnvironment _ _ hmirrors).1.trans (by decide +kernel)⟩

end Settings

end MetricFeed
