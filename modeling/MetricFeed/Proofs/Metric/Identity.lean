/-
MetricFeed/Proofs/Metric/Identity.lean

When two identities are the same.  An identity is determined by its group, its name and the values
of its tags (`MetricId.eq_iff`).  Tags of distinct keys can be told from the identity that they were
attached to, but for the order in which they were attached (`MetricId.withTags_eq_iff`), so this
order does not matter (`MetricId.withTags_perm`).
-/
import Mathlib.Data.List.Nodup
import MetricFeed.Metric.Id

namespace MetricFeed.MetricId

variable {id : MetricId} {group name group' name' : String} {tags tags' : List (String × String)}

/-! ### What an identity consists of -/

/-- Identities are compared by group, name and tags. -/
theorem eq_iff (a b : MetricId) :
    a = b ↔ a.group = b.group ∧ a.name = b.name ∧ ∀ key, a.tag? key = b.tag? key := by
  constructor
  · rintro rfl
    exact ⟨rfl, rfl, fun _ => rfl⟩
  · rintro ⟨hgroup, hname, htags⟩
    have hmaps : a.tags = b.tags := TextMap.ext_get? htags
    cases a
    cases b
    simp_all

@[simp] theorem group_withTag (id : MetricId) (key value : String) :
    (id.withTag key value).group = id.group := rfl

@[simp] theorem name_withTag (id : MetricId) (key value : String) :
    (id.withTag key value).name = id.name := rfl

@[simp] theorem tag?_withTag (id : MetricId) (key value k : String) :
    (id.withTag key value).tag? k = if k = key then some value else id.tag? k :=
  TextMap.get?_insert id.tags key value k

/-! ### Several tags -/

@[simp] theorem withTags_cons (id : MetricId) (tag : String × String)
    (tags : List (String × String)) :
    id.withTags (tag :: tags) = (id.withTag tag.1 tag.2).withTags tags := rfl

@[simp] theorem group_withTags (id : MetricId) (tags : List (String × String)) :
    (id.withTags tags).group = id.group := by
  induction tags generalizing id with
  | nil => rfl
  | cons tag rest ih => simp [ih]

@[simp] theorem name_withTags (id : MetricId) (tags : List (String × String)) :
    (id.withTags tags).name = id.name := by
  induction tags generalizing id with
  | nil => rfl
  | cons tag rest ih => simp [ih]

/-- After tags of distinct keys were attached, a tag is one of them or an earlier one of another
key. -/
theorem tag?_withTags (hkeys : (tags.map (·.1)).Nodup) (k v : String) :
    (id.withTags tags).tag? k = some v ↔
      (k, v) ∈ tags ∨ k ∉ tags.map (·.1) ∧ id.tag? k = some v := by
  induction tags generalizing id with
  | nil =>
    show id.tag? k = some v ↔ _
    simp
  | cons tag rest ih =>
    obtain ⟨key, value⟩ := tag
    obtain ⟨hkey, hrest⟩ := List.nodup_cons.mp hkeys
    rw [withTags_cons, ih hrest, tag?_withTag]
    by_cases hk : k = key
    · -- no later tag has this key
      subst hk
      have hlater : (k, v) ∉ rest := by
        intro hmem
        exact hkey (List.mem_map_of_mem (f := (·.1)) hmem)
      simp [hlater, hkey, eq_comm]
    · simp [hk]

/-- The tags of an identity that had none before. -/
theorem tag?_withTags_eq_some_iff (hkeys : (tags.map (·.1)).Nodup) (k v : String) :
    (withTags { group, name } tags).tag? k = some v ↔ (k, v) ∈ tags := by
  have hnone : tag? { group, name } k = none := rfl
  rw [tag?_withTags hkeys, hnone]
  simp

/-- **Tags make a difference, their order does not**: identities made from tags of distinct keys are
the same exactly if they have the same group, the same name, and the same tags in whatever order. -/
theorem withTags_eq_iff (hkeys : (tags.map (·.1)).Nodup) (hkeys' : (tags'.map (·.1)).Nodup) :
    withTags { group, name } tags = withTags { group := group', name := name' } tags' ↔
      group = group' ∧ name = name' ∧ tags.Perm tags' := by
  rw [eq_iff, group_withTags, group_withTags, name_withTags, name_withTags,
    List.perm_ext_iff_of_nodup (.of_map _ hkeys) (.of_map _ hkeys')]
  refine and_congr Iff.rfl (and_congr Iff.rfl ⟨fun h tag => ?_, fun h k => ?_⟩)
  · rw [← tag?_withTags_eq_some_iff hkeys, h, tag?_withTags_eq_some_iff hkeys']
  · apply Option.ext
    intro v
    rw [tag?_withTags_eq_some_iff hkeys, h, tag?_withTags_eq_some_iff hkeys']

/-- Tags of distinct keys may be attached in any order. -/
theorem withTags_perm (hkeys : (tags.map (·.1)).Nodup) (hperm : tags.Perm tags') :
    id.withTags tags = id.withTags tags' := by
  have hkeys' : (tags'.map (·.1)).Nodup := (hperm.map _).nodup_iff.mp hkeys
  refine (eq_iff _ _).mpr ⟨by simp, by simp, fun k => Option.ext fun v => ?_⟩
  rw [tag?_withTags hkeys, tag?_withTags hkeys', hperm.mem_iff, (hperm.map _).mem_iff]

end MetricFeed.MetricId
