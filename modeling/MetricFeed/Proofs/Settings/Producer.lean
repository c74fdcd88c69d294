/-
MetricFeed/Proofs/Settings/Producer.lean

The settings of the producer, key by key.  What is given and what is filled in are two lists of
entries, and under a key that both have, the given one stands: filling in is a lookup in one list
after the other (`ProducerSettings.get?_fillIn`).

The validation reads a number as the accessors do, who fall back on a default when there is nothing
to be read.  Loaded settings have been validated and hold all documented keys, so no accessor ever
falls back, whatever else is filled in later.

Main result (`ProducerSettings.faithful_of_load`): loaded settings hold what the lookup gives, and
the documented default where it gives nothing.
-/
import MetricFeed.Proofs.Settings.Lookup
import MetricFeed.Settings.Producer

namespace MetricFeed

namespace ProducerSettings

variable {l : Lookup} {s : ProducerSettings} {kind : Text.IntegerKind} {key : String}

/-! ### Filling in -/

/-- The settings after values have been filled in, one after the other. -/
def fillIn (s : ProducerSettings) (entries : List (String × String)) : ProducerSettings :=
  entries.foldl (fun s entry => s.setIfAbsent entry.1 entry.2) s

@[simp] theorem fillIn_nil (s : ProducerSettings) : s.fillIn [] = s := rfl

@[simp] theorem fillIn_cons (s : ProducerSettings) (entry : String × String)
    (entries : List (String × String)) :
    s.fillIn (entry :: entries) = (s.setIfAbsent entry.1 entry.2).fillIn entries := rfl

theorem fillIn_append (s : ProducerSettings) (before after : List (String × String)) :
    s.fillIn (before ++ after) = (s.fillIn before).fillIn after :=
  List.foldl_append

theorem contains_iff : s.contains key = true ↔ (s.get? key).isSome = true := Iff.rfl

theorem setIfAbsent_of_contains {value : String} (h : s.contains key = true) :
    s.setIfAbsent key value = s := by
  rw [setIfAbsent, if_pos h]

theorem get?_setIfAbsent (s : ProducerSettings) (key value k : String) :
    (s.setIfAbsent key value).get? k =
      (s.get? k).or (if k = key then some value else none) := by
  cases hheld : s.get? key with
  | some text =>
    -- what is held stays, whatever is filled in
    rw [setIfAbsent_of_contains (contains_iff.mpr (by rw [hheld]; rfl))]
    by_cases hk : k = key
    · rw [hk, hheld]
      rfl
    · rw [if_neg hk, Option.or_none]
  | none =>
    have habsent : ¬s.contains key = true := by
      rw [contains_iff, hheld]
      exact Bool.false_ne_true
    have hinsert : (s.setIfAbsent key value).get? k = (s.properties.insert key value).get? k := by
      rw [setIfAbsent, if_neg habsent]
      rfl
    rw [hinsert, TextMap.get?_insert]
    by_cases hk : k = key
    · rw [if_pos hk, if_pos hk, hk, hheld]
      rfl
    · rw [if_neg hk, if_neg hk, Option.or_none]
      rfl

/-- Under each key stands what stood there, or else what is filled in first. -/
theorem get?_fillIn (s : ProducerSettings) (entries : List (String × String)) (k : String) :
    (s.fillIn entries).get? k = (s.get? k).or (entries.lookup k) := by
  induction entries generalizing s with
  | nil => exact Option.or_none.symm
  | cons entry rest ih =>
    rw [fillIn_cons, ih, get?_setIfAbsent, TextMap.lookup_cons_ite, Option.or_assoc]
    by_cases hk : k = entry.1
    · rw [if_pos hk, if_pos hk]
      rfl
    · rw [if_neg hk, if_neg hk]
      rfl

/-- To fill in a key that has a value already is to do nothing. -/
theorem fillIn_of_contains {before : List (String × String)} (value : String)
    (after : List (String × String)) (h : (s.fillIn before).contains key = true) :
    s.fillIn (before ++ (key, value) :: after) = s.fillIn (before ++ after) := by
  rw [fillIn_append, fillIn_append, fillIn_cons, setIfAbsent_of_contains h]

/-! ### What is given -/

/-- The settings with the value that is given under a key. -/
def take (l : Lookup) (s : ProducerSettings) (key : String) : ProducerSettings :=
  match l (property key) with
  | some value => ⟨s.properties.insert key value⟩
  | none => s

theorem get?_take (l : Lookup) (s : ProducerSettings) (key k : String) :
    (take l s key).get? k = if k = key then (l (property k)).or (s.get? k) else s.get? k := by
  unfold take
  by_cases hk : k = key
  · subst hk
    rw [if_pos rfl]
    cases l (property k) with
    | some value => exact (TextMap.get?_insert _ _ _ _).trans (if_pos rfl)
    | none => rfl
  · rw [if_neg hk]
    cases l (property key) with
    | some value => exact (TextMap.get?_insert _ _ _ _).trans (if_neg hk)
    | none => rfl

theorem get?_foldl_take (l : Lookup) (s : ProducerSettings) (keys : List String) (k : String) :
    (keys.foldl (take l) s).get? k =
      if k ∈ keys then (l (property k)).or (s.get? k) else s.get? k := by
  induction keys generalizing s with
  | nil => rw [if_neg List.not_mem_nil, List.foldl_nil]
  | cons key rest ih =>
    rw [List.foldl_cons, ih, get?_take]
    by_cases hk : k = key
    · have hmem : k ∈ key :: rest := hk ▸ List.mem_cons_self
      rw [if_pos hk, if_pos hmem, ← Option.or_assoc, Option.or_self, ite_self]
    · have hmem : k ∈ key :: rest ↔ k ∈ rest := by simp [hk]
      simp only [if_neg hk, hmem]

/-- Under a documented key stands what is given, and nothing stands under any other. -/
theorem get?_given (l : Lookup) (k : String) :
    (given l).get? k = if k ∈ keys then l (property k) else none := by
  have htake : given l = keys.foldl (take l) {} := rfl
  have hempty : ({} : ProducerSettings).get? k = none := rfl
  rw [htake, get?_foldl_take, hempty, Option.or_none]

/-! ### The documented defaults -/

/-- The keys of the producer with their defaults, for a local broker on the port. -/
def documented (port : Int) : List (String × String) :=
  [(bootstrapServers, "localhost:" ++ toString port), (securityProtocol, "PLAINTEXT"),
    (clientId, "metrics-reporter"), (lingerMs, "500"), (batchSize, "800000"), (retries, "5"),
    (compressionType, "gzip"), (keySerializer, "string"), (valueSerializer, "json"), (acks, "all")]

theorem fixedDefaults_eq :
    fixedDefaults =
      [(clientId, "metrics-reporter"), (lingerMs, "500"), (batchSize, "800000"), (retries, "5"),
        (compressionType, "gzip"), (keySerializer, "string"), (valueSerializer, "json"),
        (acks, "all")] := by
  decide

theorem map_fst_documented (port : Int) : (documented port).map (·.1) = keys := rfl

theorem lookup_documented {port : Int} {entry : String × String}
    (h : entry ∈ documented port) : (documented port).lookup entry.1 = some entry.2 := by
  simp only [documented, List.mem_cons, List.not_mem_nil, or_false] at h
  rcases h with rfl | rfl | rfl | rfl | rfl | rfl | rfl | rfl | rfl | rfl <;> rfl

theorem fillIn_documented (s : ProducerSettings) (port : Int) :
    s.fillIn (documented port) =
      withFixedDefaults ((s.setIfAbsent bootstrapServers
        ("localhost:" ++ toString port)).setIfAbsent securityProtocol "PLAINTEXT") := by
  have hcons : documented port = (bootstrapServers, "localhost:" ++ toString port) ::
      (securityProtocol, "PLAINTEXT") :: fixedDefaults := by
    rw [fixedDefaults_eq, documented]
  rw [hcons, fillIn_cons, fillIn_cons, withFixedDefaults, fillIn]

/-- The port that the default address names. -/
structure PortOf (l : Lookup) (port : Int) : Prop where
  yields : l.Yields portProperty Text.Denotes 9092 port
  nonneg : 0 ≤ port
  le : port ≤ 65535

theorem withAddress_eq_ok {s' : ProducerSettings} {notices : List Notice}
    (h : withAddress l s = .ok (s', notices)) :
    ∃ port, (s.get? bootstrapServers = none → PortOf l port) ∧
      s' = s.setIfAbsent bootstrapServers ("localhost:" ++ toString port) := by
  unfold withAddress at h
  split at h
  · rename_i hcontains
    cases h
    refine ⟨9092, fun hnone => ?_, (setIfAbsent_of_contains hcontains).symm⟩
    rw [contains_iff, hnone] at hcontains
    exact absurd hcontains Bool.false_ne_true
  · obtain ⟨address, haddress, h⟩ := exists_of_bind_eq_ok h
    obtain ⟨port, hport, haddress⟩ := exists_of_bind_eq_ok haddress
    cases haddress
    cases h
    obtain ⟨hnonneg, hle⟩ := Lookup.range_of_integerOr hport (by decide)
    exact ⟨port, fun _ => ⟨Lookup.yields_of_integerOr hport, hnonneg, hle⟩, rfl⟩

theorem withProtocol_fst (s : ProducerSettings) :
    (withProtocol s).1 = s.setIfAbsent securityProtocol "PLAINTEXT" := by
  unfold withProtocol
  split
  · rename_i hcontains
    exact (setIfAbsent_of_contains hcontains).symm
  · rfl

theorem of_validated {t : ProducerSettings} (h : (t.validate.map fun _ => t) = .ok s) :
    s = t ∧ s.validate = .ok () := by
  cases hvalid : t.validate with
  | error fault =>
    rw [hvalid] at h
    cases h
  | ok =>
    rw [hvalid] at h
    cases h
    exact ⟨rfl, hvalid⟩

/-- Loaded settings are the given ones with the documented defaults filled in, and are valid. -/
theorem of_load (h : load l = .ok s) :
    ∃ port, (l (property bootstrapServers) = none → PortOf l port) ∧
      s = (given l).fillIn (documented port) ∧ s.validate = .ok () := by
  unfold load loadNoting at h
  split at h
  · cases h
  · -- address and protocol are filled in one by one, the other defaults from a list
    rename_i addressed notices haddressed
    obtain ⟨port, hport, rfl⟩ := withAddress_eq_ok haddressed
    dsimp only at h
    rw [withProtocol_fst, ← fillIn_documented] at h
    refine ⟨port, fun hnone => hport ?_, of_validated h⟩
    rw [get?_given, if_pos (by decide), hnone]

/-! ### Validation and accessors -/

/-- A number under a key: the one that the stored text denotes, whatever the accessor would fall
back on. -/
structure Holds (s : ProducerSettings) (kind : Text.IntegerKind) (key : String) (n : Nat) :
    Prop where
  denotes : ∃ text, s.get? key = some text ∧ Text.Denotes (Text.trim text) n
  le : n ≤ kind.greatest
  number : ∀ default, s.number kind key default = n

/-- A text is stored under the key, and a number can be read from it. -/
def HasNumber (s : ProducerSettings) (kind : Text.IntegerKind) (key : String) : Prop :=
  ∃ text n, s.get? key = some text ∧ Text.readInteger kind (Text.trim text) = .ok n

/-- The accessor reads the number that the validation has read. -/
theorem HasNumber.holds (h : s.HasNumber kind key) (hunsigned : kind.signed = false)
    (default : Nat) : s.Holds kind key (s.number kind key default) := by
  obtain ⟨text, n, htext, hread⟩ := h
  have hnumber : ∀ default, s.number kind key default = n.toNat := by
    intro default
    simp only [number, htext, hread]
  obtain ⟨hdenotes, hleast, hgreatest, -⟩ := Text.readInteger_eq_ok_iff.mp hread
  rw [Text.IntegerKind.least_of_unsigned hunsigned] at hleast
  have hn : (n.toNat : Int) = n := Int.toNat_of_nonneg hleast
  rw [hnumber default]
  exact ⟨⟨text, htext, hn.symm ▸ hdenotes⟩, hn.symm ▸ hgreatest, hnumber⟩

theorem hasNumber_of_checkNumber {text : String} (htext : s.get? key = some text)
    (h : s.checkNumber kind key = .ok ()) : s.HasNumber kind key := by
  cases hread : Text.readInteger kind (Text.trim text) with
  | ok n => exact ⟨text, n, htext, hread⟩
  | error fault =>
    simp only [checkNumber, htext, hread] at h
    cases h

theorem mem_of_checkAcks {text : String} (htext : s.get? acks = some text)
    (h : s.checkAcks = .ok ()) : text ∈ admittedAcks := by
  simp only [checkAcks, htext] at h
  by_cases hmem : text ∈ admittedAcks
  · exact hmem
  · rw [if_neg hmem] at h
    cases h

/-- Valid settings pass every check. -/
theorem checks_of_validate (h : s.validate = .ok ()) :
    s.checkNumber .u64 lingerMs = .ok () ∧ s.checkNumber .u32 batchSize = .ok () ∧
      s.checkNumber .u32 retries = .ok () ∧ s.checkAcks = .ok () := by
  unfold validate at h
  obtain ⟨_, hlinger, h⟩ := exists_of_bind_eq_ok h
  obtain ⟨_, hbatch, h⟩ := exists_of_bind_eq_ok h
  obtain ⟨_, hretries, hacks⟩ := exists_of_bind_eq_ok h
  exact ⟨hlinger, hbatch, hretries, hacks⟩

/-! ### Loaded settings -/

/-- Settings that hold, under each documented key, the text that the lookup gives or else the
documented default, and whose accessors return what these texts denote. -/
structure Faithful (l : Lookup) (s : ProducerSettings) : Prop where
  texts : ∃ port, (l (property bootstrapServers) = none → PortOf l port) ∧
    ∀ entry ∈ documented port, s.get? entry.1 = some ((l (property entry.1)).getD entry.2)
  linger : s.Holds .u64 lingerMs s.linger
  batch : s.Holds .u32 batchSize s.batch
  retries : s.Holds .u32 retries s.retryCount
  acks : ∃ text ∈ ["all", "-1", "0", "1"], s.get? acks = some text

/-- Under a documented key stands the text that is given, or else the default. -/
theorem get?_given_fillIn {port : Int} {entry : String × String} (h : entry ∈ documented port) :
    ((given l).fillIn (documented port)).get? entry.1 =
      some ((l (property entry.1)).getD entry.2) := by
  have hkey : entry.1 ∈ keys := by
    rw [← map_fst_documented port]
    exact List.mem_map_of_mem h
  rw [get?_fillIn, get?_given, if_pos hkey, lookup_documented h, Option.or_some]

/-- A value that is held already is held after more has been filled in. -/
theorem get?_fillIn_of_some {text : String} (h : s.get? key = some text)
    (entries : List (String × String)) : (s.fillIn entries).get? key = some text := by
  rw [get?_fillIn, h, Option.some_or]

theorem HasNumber.fillIn (h : s.HasNumber kind key) (entries : List (String × String)) :
    (s.fillIn entries).HasNumber kind key := by
  obtain ⟨text, n, htext, hread⟩ := h
  exact ⟨text, n, get?_fillIn_of_some htext entries, hread⟩

/-- **Loaded settings hold what is given**, and the documented default where nothing is given; more
values may be filled in afterwards. -/
theorem faithful_of_load (h : load l = .ok s) (entries : List (String × String)) :
    (s.fillIn entries).Faithful l := by
  obtain ⟨port, hport, hs, hvalid⟩ := of_load h
  obtain ⟨hlinger, hbatch, hretries, hacks⟩ := checks_of_validate hvalid
  -- the settings are valid before more is filled in, and what they hold stays
  have hheld : ∀ entry ∈ documented port,
      s.get? entry.1 = some ((l (property entry.1)).getD entry.2) := by
    intro entry hentry
    rw [hs, get?_given_fillIn hentry]
  have hnumber : ∀ kind key default, (key, default) ∈ documented port →
      s.checkNumber kind key = .ok () → (s.fillIn entries).HasNumber kind key :=
    fun kind key default hmem hcheck =>
      (hasNumber_of_checkNumber (hheld (key, default) hmem) hcheck).fillIn entries
  have hacksHeld := hheld (acks, "all") (by simp [documented])
  exact
    { texts := ⟨port, hport, fun entry hentry =>
        get?_fillIn_of_some (hheld entry hentry) entries⟩
      linger := (hnumber .u64 lingerMs "500" (by simp [documented]) hlinger).holds rfl _
      batch := (hnumber .u32 batchSize "800000" (by simp [documented]) hbatch).holds rfl _
      retries := (hnumber .u32 ProducerSettings.retries "5" (by simp [documented]) hretries).holds
        rfl _
      acks := ⟨_, mem_of_checkAcks hacksHeld hacks, get?_fillIn_of_some hacksHeld entries⟩ }

end ProducerSettings

end MetricFeed
