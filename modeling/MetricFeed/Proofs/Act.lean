/-
MetricFeed/Proofs/Act.lean

Triples for actions that may be cut short.  `Act.Ensures P x Q` says how the action `x` ends when
it begins in a state that satisfies `P`: with an outcome and in a state that satisfy `Q`, and the
outcome may be a cut.  Nothing is undone by a cut, so `Q` speaks of what was done before it as well.

`Act.Keeps I x` is the special case of an invariant: `I` holds at the end however the action ends.
An invariant of all parts is one of the whole (`Keeps.bind`), which is how invariants of a pass
over the sources of metrics are proved.

`Act.Maps e x y` relates actions on two types of states: seen through `e`, the action `x` is `y`.
-/
import MetricFeed.Reporting.Act

namespace MetricFeed.Act

variable {σ α β : Type}

/-! ### Triples -/

/-- From every state that satisfies `P`, the action ends with an outcome and in a state that
satisfy `Q`. -/
def Ensures (P : σ → Prop) (x : Act σ α) (Q : Except Cut α → σ → Prop) : Prop :=
  ∀ s, P s → Q (x s).1 (x s).2

/-- Two actions one after the other: a cut of the first is a cut of the whole. -/
theorem Ensures.bind {P : σ → Prop} {R : Except Cut α → σ → Prop} {Q : Except Cut β → σ → Prop}
    {x : Act σ α} {f : α → Act σ β} (hx : Ensures P x R)
    (hf : ∀ a, Ensures (R (.ok a)) (f a) Q) (hcut : ∀ c s, R (.error c) s → Q (.error c) s) :
    Ensures P (x >>= f) Q := by
  intro s hs
  have hR := hx s hs
  rw [bind_apply]
  rcases h : x s with ⟨_ | _, s'⟩
  · rw [h] at hR
    exact hcut _ _ hR
  · rw [h] at hR
    exact hf _ _ hR

/-! ### Invariants -/

/-- The action keeps an invariant, however it ends. -/
def Keeps (I : σ → Prop) (x : Act σ α) : Prop := Ensures I x fun _ => I

namespace Keeps

variable {I : σ → Prop}

protected theorem pure (a : α) : Keeps I (pure a : Act σ α) := fun _ hs => hs

theorem cut (c : Cut) : Keeps I (cut c : Act σ α) := fun _ hs => hs

theorem change {f : σ → σ} (h : ∀ s, I s → I (f s)) : Keeps I (change f) := h

protected theorem bind {x : Act σ α} {f : α → Act σ β} (hx : Keeps I x)
    (hf : ∀ a, Keeps I (f a)) : Keeps I (x >>= f) :=
  Ensures.bind hx hf fun _ _ h => h

end Keeps

/-! ### Actions seen through a map -/

/-- Seen through a map of states, one action is another. -/
def Maps {τ : Type} (e : σ → τ) (x : Act σ α) (y : Act τ α) : Prop :=
  ∀ s, y (e s) = ((x s).1, e (x s).2)

namespace Maps

variable {τ : Type} {e : σ → τ}

protected theorem pure (a : α) : Maps e (pure a) (pure a) := fun _ => rfl

theorem cut (c : Cut) : Maps e (cut c : Act σ α) (cut c) := fun _ => rfl

theorem change {f : σ → σ} {g : τ → τ} (h : ∀ s, g (e s) = e (f s)) :
    Maps e (change f) (change g) := by
  intro s
  rw [change_apply, h s]
  rfl

protected theorem bind {x : Act σ α} {y : Act τ α} {f : α → Act σ β} {g : α → Act τ β}
    (hx : Maps e x y) (hf : ∀ a, Maps e (f a) (g a)) : Maps e (x >>= f) (y >>= g) := by
  intro s
  rw [bind_apply, bind_apply, hx s]
  rcases x s with ⟨_ | a, s'⟩
  · rfl
  · exact hf a s'

theorem attempt {x : Act σ α} {y : Act τ α} (hx : Maps e x y) :
    Maps e (attempt x) (attempt y) := by
  intro s
  rw [attempt_apply, hx s]
  rfl

end Maps

end MetricFeed.Act
