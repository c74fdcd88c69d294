/-
MetricFeed/Proofs/Settings/Lookup.lean

What a lookup says about a single setting (`Lookup.Yields`): the meaning of the text that it holds,
the blanks around it removed, or the default if it holds none.  Every typed reader is shown to
return what its property yields (`Lookup.yields_of_integerOr`, `Lookup.yields_of_boolOr`).
-/
import MetricFeed.Proofs.Text.Numeral
import MetricFeed.Settings.Lookup

namespace MetricFeed

/-- What consists of two parts succeeds if both do. -/
theorem exists_of_bind_eq_ok {ε α β : Type} {x : Except ε α} {f : α → Except ε β} {b : β}
    (h : (x >>= f) = .ok b) : ∃ a, x = .ok a ∧ f a = .ok b := by
  cases x with
  | error fault => cases h
  | ok a => exact ⟨a, rfl, h⟩

namespace Lookup

variable {l : Lookup} {kind : Text.IntegerKind} {key : String}

/-! ### What a property yields -/

/-- A setting is what the text of its property means, without the blanks around it, or the default
if the property is not set. -/
structure Yields {α : Type} (l : Lookup) (property : String) (means : String → α → Prop)
    (default a : α) : Prop where
  given : ∀ raw, l property = some raw → means (Text.trim raw) a
  missing : l property = none → a = default

theorem Yields.of_some {α : Type} {means : String → α → Prop} {default a : α} {raw : String}
    (hraw : l key = some raw) (h : means (Text.trim raw) a) : l.Yields key means default a := by
  refine ⟨fun raw' hraw' => ?_, fun hnone => ?_⟩
  · cases hraw.symm.trans hraw'
    exact h
  · cases hraw.symm.trans hnone

theorem Yields.of_none {α : Type} {means : String → α → Prop} {default : α}
    (hnone : l key = none) : l.Yields key means default default := by
  refine ⟨fun raw hraw => ?_, fun _ => rfl⟩
  cases hnone.symm.trans hraw

/-! ### The typed readers -/

/-- An integer is read if the text denotes it, and it is one of the kind. -/
theorem denotes_of_integer {raw : String} {n : Int} (h : integer kind key raw = .ok n) :
    Text.Denotes (Text.trim raw) n ∧ kind.least ≤ n ∧ n ≤ kind.greatest := by
  have hread : Text.readInteger kind (Text.trim raw) = .ok n := by
    unfold integer at h
    split at h
    · cases h
      assumption
    · cases h
  obtain ⟨hdenotes, hleast, hgreatest, -⟩ := Text.readInteger_eq_ok_iff.mp hread
  exact ⟨hdenotes, hleast, hgreatest⟩

/-- What is read is what the property yields. -/
theorem yields_of_integerOr {default n : Int} (h : l.integerOr kind key default = .ok n) :
    l.Yields key Text.Denotes default n := by
  unfold integerOr at h
  split at h
  · rename_i raw hraw
    exact .of_some hraw (denotes_of_integer h).1
  · rename_i hnone
    cases h
    exact .of_none hnone

/-- What is read is one of the kind, as the default is. -/
theorem range_of_integerOr {default n : Int} (h : l.integerOr kind key default = .ok n)
    (hdefault : kind.least ≤ default ∧ default ≤ kind.greatest) :
    kind.least ≤ n ∧ n ≤ kind.greatest := by
  unfold integerOr at h
  split at h
  · exact (denotes_of_integer h).2
  · cases h
    exact hdefault

/-- A truth value is read from its word. -/
theorem readBool_eq_some_iff {s : String} {b : Bool} :
    Text.readBool s = some b ↔ s = toString b := by
  have htrue : toString true = "true" := rfl
  have hfalse : toString false = "false" := rfl
  unfold Text.readBool
  cases b with
  | false =>
    rw [hfalse]
    split <;> simp_all
  | true =>
    rw [htrue]
    split <;> simp_all

/-- What is read is what the property yields. -/
theorem yields_of_boolOr {default b : Bool} (h : l.boolOr key default = .ok b) :
    l.Yields key (fun text b => text = toString b) default b := by
  unfold boolOr at h
  split at h
  · rename_i raw hraw
    split at h
    · rename_i hb
      cases h
      exact .of_some hraw (readBool_eq_some_iff.mp hb)
    · cases h
  · rename_i hnone
    cases h
    exact .of_none hnone

end Lookup

end MetricFeed
