/-
MetricFeed/TextMap.lean

Finite maps from texts to texts: the tags of a metric, the settings of a client, the configuration
of a topic.  The entries are kept in strictly ascending order of their keys, so a map has one
representation: two maps that hold the same entries are equal, in whatever order the entries were
put in (`TextMap.ext_get?`).

Texts are ordered by their code points, which is also the order of their UTF-8 bytes.
-/

namespace MetricFeed

/-! ### Ascending entry lists -/

/-- The keys ascend strictly. -/
def Ascending (entries : List (String × String)) : Prop :=
  entries.Pairwise fun a b => a.1 < b.1

/-- Puts an entry at its place, in place of an entry with the same key. -/
def insertEntry (key value : String) : List (String × String) → List (String × String)
  | [] => [(key, value)]
  | entry :: rest =>
    if key < entry.1 then (key, value) :: entry :: rest
    else if key = entry.1 then (key, value) :: rest
    else entry :: insertEntry key value rest

/-- Removes the entry with the given key. -/
def eraseEntry (key : String) (entries : List (String × String)) : List (String × String) :=
  entries.filter fun entry => entry.1 ≠ key

theorem mem_insertEntry_key {key value : String} {entries : List (String × String)}
    {x : String × String} (h : x ∈ insertEntry key value entries) :
    x.1 = key ∨ x ∈ entries := by
  induction entries with
  | nil => simp [insertEntry] at h; simp [h]
  | cons e r ih =>
    unfold insertEntry at h
    split at h
    · rcases List.mem_cons.mp h with rfl | h
      · exact .inl rfl
      · exact .inr h
    · split at h
      · rcases List.mem_cons.mp h with rfl | h
        · exact .inl rfl
        · exact .inr (List.mem_cons_of_mem _ h)
      · rcases List.mem_cons.mp h with rfl | h
        · exact .inr List.mem_cons_self
        · exact (ih h).imp_right (List.mem_cons_of_mem _)

theorem lt_of_not_lt_of_ne {a b : String} (h : ¬ a < b) (hne : a ≠ b) : b < a := by
  rcases String.le_total a b with hab | hba
  · exact absurd (String.le_antisymm hab (String.not_lt.mp h)) hne
  · exact Classical.not_not.mp fun hn =>
      hne (String.le_antisymm (String.not_lt.mp hn) hba)

theorem ascending_insertEntry (key value : String) {entries : List (String × String)}
    (h : Ascending entries) : Ascending (insertEntry key value entries) := by
  induction entries with
  | nil => simp [insertEntry, Ascending]
  | cons e r ih =>
    have hr := List.pairwise_cons.mp h
    unfold insertEntry
    split
    · rename_i hlt
      refine List.pairwise_cons.mpr ⟨fun x hx => ?_, h⟩
      rcases List.mem_cons.mp hx with rfl | hx
      · exact hlt
      · exact String.lt_trans hlt (hr.1 x hx)
    · split
      · rename_i heq
        exact List.pairwise_cons.mpr ⟨fun x hx => heq ▸ hr.1 x hx, hr.2⟩
      · rename_i hlt hne
        refine List.pairwise_cons.mpr ⟨fun x hx => ?_, ih hr.2⟩
        rcases mem_insertEntry_key hx with hk | hx
        · exact hk ▸ lt_of_not_lt_of_ne hlt hne
        · exact hr.1 x hx

theorem ascending_eraseEntry (key : String) {entries : List (String × String)}
    (h : Ascending entries) : Ascending (eraseEntry key entries) :=
  List.Pairwise.filter _ h

/-! ### The type -/

/-- A finite map from texts to texts. -/
structure TextMap where
  entries : List (String × String)
  ascending : Ascending entries
  deriving DecidableEq

namespace TextMap

/-- The map without entries. -/
def empty : TextMap := ⟨[], List.Pairwise.nil⟩

instance : Inhabited TextMap := ⟨empty⟩

/-- The map with `value` under `key` and all else unchanged. -/
def insert (m : TextMap) (key value : String) : TextMap :=
  ⟨insertEntry key value m.entries, ascending_insertEntry key value m.ascending⟩

/-- The map without an entry under `key`. -/
def erase (m : TextMap) (key : String) : TextMap :=
  ⟨eraseEntry key m.entries, ascending_eraseEntry key m.ascending⟩

/-- The value under `key`. -/
def get? (m : TextMap) (key : String) : Option String :=
  m.entries.lookup key

/-- Whether there is an entry under `key`. -/
def contains (m : TextMap) (key : String) : Bool :=
  (m.get? key).isSome

/-- Puts in entries one after the other: a later one replaces an earlier one of the same key. -/
def ofList (entries : List (String × String)) : TextMap :=
  entries.foldl (fun m entry => m.insert entry.1 entry.2) empty

def isEmpty (m : TextMap) : Bool :=
  m.entries.isEmpty

/-! ### What the operations do to the value under a key -/

@[simp] theorem get?_empty (k : String) : empty.get? k = none := rfl

theorem lookup_cons_ite (k : String) (e : String × String) (r : List (String × String)) :
    (e :: r).lookup k = if k = e.1 then some e.2 else r.lookup k := by
  obtain ⟨a, b⟩ := e
  by_cases h : k = a
  · simp [h]
  · simp [List.lookup_cons, beq_false_of_ne h, h]

theorem lookup_insertEntry (key value k : String) (entries : List (String × String)) :
    (insertEntry key value entries).lookup k =
      if k = key then some value else entries.lookup k := by
  induction entries with
  | nil => by_cases h : k = key <;> simp [insertEntry, h]
  | cons e r ih =>
    unfold insertEntry
    split
    · simp [lookup_cons_ite]
    · split
      · rename_i heq
        by_cases hk : k = key <;> simp [lookup_cons_ite, hk, ← heq]
      · rename_i hne
        rw [lookup_cons_ite, lookup_cons_ite, ih]
        by_cases hk : k = e.1
        · subst hk; simp [Ne.symm hne]
        · simp [hk]

@[simp] theorem get?_insert (m : TextMap) (key value k : String) :
    (m.insert key value).get? k = if k = key then some value else m.get? k :=
  lookup_insertEntry key value k m.entries

theorem lookup_eraseEntry (key k : String) (entries : List (String × String)) :
    (eraseEntry key entries).lookup k = if k = key then none else entries.lookup k := by
  induction entries with
  | nil => simp [eraseEntry]
  | cons e r ih =>
    unfold eraseEntry at ih ⊢
    rw [List.filter_cons, lookup_cons_ite]
    by_cases h : e.1 = key
    · rw [if_neg (by simp [h]), ih]
      by_cases hk : k = key
      · simp [hk]
      · simp [hk, h]
    · rw [if_pos (by simp [h]), lookup_cons_ite, ih]
      by_cases hk : k = e.1
      · subst hk; simp [h]
      · simp [hk]

@[simp] theorem get?_erase (m : TextMap) (key k : String) :
    (m.erase key).get? k = if k = key then none else m.get? k :=
  lookup_eraseEntry key k m.entries

/-! ### One representation -/

theorem mem_entries_iff (m : TextMap) (k v : String) :
    (k, v) ∈ m.entries ↔ m.get? k = some v := by
  obtain ⟨entries, h⟩ := m
  show (k, v) ∈ entries ↔ entries.lookup k = some v
  induction entries with
  | nil => simp
  | cons e r ih =>
    obtain ⟨k', v'⟩ := e
    have hr := List.pairwise_cons.mp h
    rw [List.mem_cons, lookup_cons_ite, ih hr.2]
    by_cases hk : k = k'
    · subst hk
      have hnone : r.lookup k = none := by
        rw [List.lookup_eq_none_iff]
        intro x hx
        have := hr.1 x hx
        simp only [bne_iff_ne, ne_eq]
        rintro rfl
        exact String.lt_irrefl _ this
      simp [hnone, eq_comm]
    · simp [hk]

theorem ascending_ext {l₁ l₂ : List (String × String)} (h₁ : Ascending l₁) (h₂ : Ascending l₂)
    (h : ∀ x, x ∈ l₁ ↔ x ∈ l₂) : l₁ = l₂ := by
  induction l₁ generalizing l₂ with
  | nil =>
    cases l₂ with
    | nil => rfl
    | cons y t => exact absurd ((h y).mpr List.mem_cons_self) (by simp)
  | cons x r ih =>
    cases l₂ with
    | nil => exact absurd ((h x).mp List.mem_cons_self) (by simp)
    | cons y t =>
      have hr := List.pairwise_cons.mp h₁
      have ht := List.pairwise_cons.mp h₂
      -- both heads are the least entry
      have hxy : x = y := by
        rcases List.mem_cons.mp ((h x).mp List.mem_cons_self) with e | hx
        · exact e
        · rcases List.mem_cons.mp ((h y).mpr List.mem_cons_self) with e | hy
          · exact e.symm
          · exact absurd (hr.1 y hy) (String.lt_asymm (ht.1 x hx))
      subst hxy
      have hrt : ∀ z, z ∈ r ↔ z ∈ t := by
        intro z
        constructor
        · intro hz
          rcases List.mem_cons.mp ((h z).mp (List.mem_cons_of_mem _ hz)) with e | hz'
          · subst e; exact absurd (hr.1 z hz) (String.lt_irrefl _)
          · exact hz'
        · intro hz
          rcases List.mem_cons.mp ((h z).mpr (List.mem_cons_of_mem _ hz)) with e | hz'
          · subst e; exact absurd (ht.1 z hz) (String.lt_irrefl _)
          · exact hz'
      rw [ih hr.2 ht.2 hrt]

/-- Maps with the same value under every key are equal. -/
theorem ext_get? {m₁ m₂ : TextMap} (h : ∀ k, m₁.get? k = m₂.get? k) : m₁ = m₂ := by
  have : m₁.entries = m₂.entries :=
    ascending_ext m₁.ascending m₂.ascending fun ⟨k, v⟩ => by
      rw [mem_entries_iff, mem_entries_iff, h]
  cases m₁
  cases m₂
  simpa using this

end TextMap

end MetricFeed
