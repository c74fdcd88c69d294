/-
MetricFeed/Reporting/Act.lean

Actions on a state that may be cut short by a fault or by a panic.  What was done to the state
before the cut stays done.
-/
import MetricFeed.Fault

namespace MetricFeed

/-- What cuts an action short. -/
inductive Cut
  | fault (fault : ReportFault)
  | panic
  deriving DecidableEq

/-- An action on a state of type `σ` that yields a value of type `α` unless it is cut short. -/
def Act (σ α : Type) := σ → Except Cut α × σ

namespace Act

variable {σ α β : Type}

/-- Yields a value and does nothing. -/
protected def pure (a : α) : Act σ α := fun s => (.ok a, s)

/-- Does one action and then another, which may depend on the first one's value. -/
protected def bind (x : Act σ α) (f : α → Act σ β) : Act σ β := fun s =>
  match x s with
  | (.ok a, s) => f a s
  | (.error cut, s) => (.error cut, s)

instance : Monad (Act σ) where
  pure := Act.pure
  bind := Act.bind

/-- Cuts the action short. -/
def cut (c : Cut) : Act σ α := fun s => (.error c, s)

/-- Changes the state. -/
def change (f : σ → σ) : Act σ Unit := fun s => (.ok (), f s)

/-- Does an action to its end or its cut, and yields which it was. -/
def attempt (x : Act σ α) : Act σ (Except Cut α) := fun s =>
  let (outcome, s) := x s
  (.ok outcome, s)

/-! ### How actions run -/

@[simp] theorem pure_apply (a : α) (s : σ) : (pure a : Act σ α) s = (.ok a, s) := rfl

theorem bind_apply (x : Act σ α) (f : α → Act σ β) (s : σ) :
    (x >>= f) s =
      match x s with
      | (.ok a, s) => f a s
      | (.error cut, s) => (.error cut, s) := rfl

@[simp] theorem cut_apply (c : Cut) (s : σ) : (cut c : Act σ α) s = (.error c, s) := rfl

@[simp] theorem change_apply (f : σ → σ) (s : σ) : change f s = (.ok (), f s) := rfl

@[simp] theorem attempt_apply (x : Act σ α) (s : σ) : attempt x s = (.ok (x s).1, (x s).2) := rfl

end Act

end MetricFeed
