/-
MetricFeed/Table.lean

Tables: entries under keys, in the order in which their keys came first, one entry per key.
A later entry under a key takes the place of the earlier one.  The operations are described by
what they do to the entry under a key (`get?_insert`, `get?_erase`).
-/

namespace MetricFeed

/-- Entries under keys, in order of first insertion. -/
structure Table (κ ν : Type) where
  entries : List (κ × ν) := []

namespace Table

variable {κ ν : Type} [DecidableEq κ]

instance : Inhabited (Table κ ν) := ⟨{}⟩

/-- Puts an entry in the place of the one with its key, or at the end. -/
def insertInto (key : κ) (value : ν) : List (κ × ν) → List (κ × ν)
  | [] => [(key, value)]
  | entry :: rest =>
    if entry.1 = key then (key, value) :: rest else entry :: insertInto key value rest

/-- The table with `value` under `key`. -/
def insert (t : Table κ ν) (key : κ) (value : ν) : Table κ ν :=
  ⟨insertInto key value t.entries⟩

/-- The table without an entry under `key`. -/
def erase (t : Table κ ν) (key : κ) : Table κ ν :=
  ⟨t.entries.filter fun entry => entry.1 ≠ key⟩

/-- The entry under `key`. -/
def get? (t : Table κ ν) (key : κ) : Option ν :=
  (t.entries.find? fun entry => entry.1 = key).map (·.2)

/-- Whether there is an entry under `key`. -/
def contains (t : Table κ ν) (key : κ) : Bool :=
  (t.get? key).isSome

/-- The number of entries. -/
def size (t : Table κ ν) : Nat :=
  t.entries.length

/-- The keys, in order of first insertion. -/
def keys (t : Table κ ν) : List κ :=
  t.entries.map (·.1)

/-- The entries' values, in order of their keys' first insertion. -/
def values (t : Table κ ν) : List ν :=
  t.entries.map (·.2)

/-- The entries whose keys satisfy `p`. -/
def filterKeys (t : Table κ ν) (p : κ → Bool) : Table κ ν :=
  ⟨t.entries.filter fun entry => p entry.1⟩

/-! ### What the operations do to the entry under a key -/

@[simp] theorem get?_empty (k : κ) : ({} : Table κ ν).get? k = none := rfl

@[simp] theorem get?_insert (t : Table κ ν) (key : κ) (value : ν) (k : κ) :
    (t.insert key value).get? k = if k = key then some value else t.get? k := by
  obtain ⟨entries⟩ := t
  unfold insert get?
  induction entries with
  | nil =>
    by_cases h : k = key
    · subst h; simp [insertInto]
    · simp [insertInto, h, Ne.symm h]
  | cons e r ih =>
    simp only [insertInto]
    by_cases he : e.1 = key
    · rw [if_pos he]
      by_cases h : k = key
      · subst h; simp
      · have hek : e.1 ≠ k := fun h' => h (h'.symm.trans he)
        simp [h, Ne.symm h, hek]
    · rw [if_neg he]
      by_cases hek : e.1 = k
      · subst hek; simp [he]
      · simpa [hek] using ih

@[simp] theorem get?_erase (t : Table κ ν) (key k : κ) :
    (t.erase key).get? k = if k = key then none else t.get? k := by
  obtain ⟨entries⟩ := t
  unfold erase get?
  induction entries with
  | nil => simp
  | cons e r ih =>
    simp only [List.filter_cons]
    by_cases he : e.1 = key
    · subst he
      simp only [ne_eq, not_true_eq_false, decide_false, Bool.false_eq_true, if_false]
      rw [ih]
      by_cases h : k = e.1
      · simp [h]
      · simp [h, Ne.symm h]
    · simp only [ne_eq, he, not_false_eq_true, decide_true, if_true]
      by_cases hek : e.1 = k
      · subst hek; simp [he]
      · simpa [hek] using ih

@[simp] theorem get?_filterKeys (t : Table κ ν) (p : κ → Bool) (k : κ) :
    (t.filterKeys p).get? k = if p k then t.get? k else none := by
  obtain ⟨entries⟩ := t
  unfold filterKeys get?
  induction entries with
  | nil => simp
  | cons e r ih =>
    simp only [List.filter_cons]
    by_cases hp : p e.1 = true
    · rw [if_pos hp]
      by_cases hek : e.1 = k
      · subst hek; simp [hp]
      · simpa [hek] using ih
    · rw [if_neg hp, ih]
      by_cases hek : e.1 = k
      · subst hek; simp [hp]
      · simp [hek]

/-! ### One entry per key -/

theorem mem_insertInto_key {key : κ} {value : ν} {entries : List (κ × ν)} {k : κ} :
    k ∈ (insertInto key value entries).map (·.1) ↔ k = key ∨ k ∈ entries.map (·.1) := by
  induction entries with
  | nil => simp [insertInto]
  | cons e r ih =>
    simp only [insertInto]
    by_cases he : e.1 = key
    · simp [he]
    · rw [if_neg he]
      simp only [List.map_cons, List.mem_cons, ih]
      grind

theorem keys_insert_nodup {t : Table κ ν} (h : t.keys.Nodup) (key : κ) (value : ν) :
    (t.insert key value).keys.Nodup := by
  obtain ⟨entries⟩ := t
  unfold keys insert at *
  induction entries with
  | nil => simp [insertInto]
  | cons e r ih =>
    simp only [List.map_cons, List.nodup_cons] at h
    simp only [insertInto]
    by_cases he : e.1 = key
    · subst he
      simpa using h
    · rw [if_neg he]
      simp only [List.map_cons, List.nodup_cons]
      refine ⟨fun hm => ?_, ih h.2⟩
      rcases mem_insertInto_key.mp hm with hk | hk
      · exact he hk
      · exact h.1 hk

theorem keys_erase_nodup {t : Table κ ν} (h : t.keys.Nodup) (key : κ) :
    (t.erase key).keys.Nodup :=
  (List.Sublist.map _ List.filter_sublist).nodup h

theorem mem_entries_iff {t : Table κ ν} (h : t.keys.Nodup) (k : κ) (v : ν) :
    (k, v) ∈ t.entries ↔ t.get? k = some v := by
  obtain ⟨entries⟩ := t
  unfold keys at h
  unfold get?
  induction entries with
  | nil => simp
  | cons e r ih =>
    obtain ⟨hk, hr⟩ := List.nodup_cons.mp h
    obtain ⟨key, value⟩ := e
    by_cases hek : key = k
    · -- no later entry has this key
      subst hek
      have hlater : (key, v) ∉ r := fun hm => hk (List.mem_map_of_mem (f := (·.1)) hm)
      simp [hlater, eq_comm]
    · simpa [hek, Ne.symm hek] using ih hr

end Table

end MetricFeed
