/-
MetricFeed/Proofs/Provisioning/Interleaving.lean

Any number of agents provision one topic with one broker, and their exchanges are interleaved in any
order.  An agent knows of the topic only what it was told, and by the time it acts on this the
others may have created, altered or grown the topic.

The invariant (`Underway`) says of the topic that its partition count is between the first one and
the largest one anybody wants, and of each agent what it relies on.  What an agent relies on
survives what the others do, because partitions are only ever added (`Relies.mono`) and keys that
are in line stay in line (`Aligned.of_inLine`).  A single exchange preserves the invariant
(`Underway.moves`, `Underway.created`); by induction it holds of every interleaving
(`Interleaving.invariant`).

Main result: `Interleaving.finished`, what the topic and the outcomes are when all agents are done.
-/
import MetricFeed.Proofs.Provisioning.Exchange
import MetricFeed.Proofs.Topic.Drift
import Mathlib.Data.Finset.Lattice.Fold
import Mathlib.Data.Fintype.Basic
import Mathlib.Order.Lattice.Nat

namespace MetricFeed.Provisioning

variable {τ ι : Type}

/-! ### Interleaved exchanges -/

/-- Where an agent stands: at a step of its provisioning, or at its outcome. -/
abbrev Stand := Step ⊕ ProvisionOutcome

/-- The exchanges of agents with a broker that was `b₀` when they all began: the broker, and where
each agent stands. -/
inductive Interleaving [DecidableEq ι] (spec : ι → TopicSpec) (b₀ : Broker τ) :
    Broker τ → (ι → Stand) → Prop
  | start : Interleaving spec b₀ b₀ fun _ => .inl .creating
  | exchange {b : Broker τ} {stands : ι → Stand} (i : ι) (step : Step) :
    Interleaving spec b₀ b stands → stands i = .inl step →
    Interleaving spec b₀ ((provision (spec i)).exchange step b).2
      (Function.update stands i ((provision (spec i)).exchange step b).1)

/-! ### What an exchange does to the topic -/

section Moves

variable {spec : TopicSpec} {t t' : StoredTopic} {step : Step} {next : Stand}

/-- Partitions are only ever added, up to the count that is wanted. -/
theorem Moves.partitions (h : Moves spec t step next t') :
    t.partitions ≤ t'.partitions ∧ t'.partitions ≤ max t.partitions spec.partitions := by
  cases h with
  | grown config before hle => exact ⟨hle, Nat.le_max_right _ _⟩
  | _ => exact ⟨Nat.le_refl _, Nat.le_max_left _ _⟩

/-- Nobody creates a topic that exists. -/
theorem Moves.ne_created (h : Moves spec t step next t') : next ≠ .inr .created := by
  cases h <;> exact nofun

/-! ### What an agent relies on -/

/-- What an agent relies on for the partitions, when the topic had `first` partitions in the
beginning: only a topic with too few of them is grown, and in the end there are enough. -/
def Relies (spec : TopicSpec) (first : Nat) (t : StoredTopic) : Stand → Prop
  | .inl (.partitions _ (.growing _)) => first < spec.partitions
  | .inl _ => True
  | .inr .abandoned => False
  | .inr _ => spec.partitions ≤ t.partitions

theorem Relies.mono {first : Nat} {stand : Stand} (h : Relies spec first t stand)
    (hle : t.partitions ≤ t'.partitions) : Relies spec first t' stand := by
  rcases stand with (_ | (_ | _) | ⟨_, _ | _⟩) | (_ | _ | _)
  case inr.created => exact Nat.le_trans h hle
  case inr.reconciled => exact Nat.le_trans h hle
  all_goals exact h

theorem Relies.enough {first : Nat} {outcome : ProvisionOutcome}
    (h : Relies spec first t (.inr outcome)) : spec.partitions ≤ t.partitions := by
  rcases outcome with _ | _ | _
  · exact h
  · exact h
  · exact h.elim

/-- After its exchange an agent can rely on what it needs. -/
theorem Moves.relies {first : Nat} (h : Moves spec t step next t') (hfirst : first ≤ t.partitions) :
    Relies spec first t' next := by
  cases h with
  | enough config hle => exact hle
  | few config hlt => exact Nat.lt_of_le_of_lt hfirst hlt
  | grown config before hle => exact Nat.le_refl _
  | outgrown config before hgt => exact Nat.le_of_lt hgt
  | _ => trivial

/-- What an agent relies on for the configuration: its changes set what is out of line, and after
them, or when there is nothing to change, there is no drift; none of its requests fails. -/
def Aligned (spec : TopicSpec) (t : StoredTopic) : Stand → Prop
  | .inl .creating => True
  | .inl (.config .describing) => True
  | .inl (.config (.altering changes)) =>
    spec.Sets changes ∧
      ∀ e ∈ spec.owned, e.1 ∈ changes.map (·.key) ∨ TopicSpec.InLine t.configs e.1 e.2
  | .inl (.partitions config _) => config ≠ .failed ∧ spec.drift t.configs = []
  | .inr .created => spec.drift t.configs = []
  | .inr (.reconciled config partitions) =>
    config ≠ .failed ∧ partitions ≠ .failed ∧ spec.drift t.configs = []
  | .inr .abandoned => False

theorem Aligned.noDrift {outcome : ProvisionOutcome} (h : Aligned spec t (.inr outcome)) :
    spec.drift t.configs = [] := by
  rcases outcome with _ | _ | _
  · exact h
  · exact h.2.2
  · exact h.elim

theorem Aligned.reconciled {outcome : ProvisionOutcome} (h : Aligned spec t (.inr outcome))
    (hne : outcome ≠ .created) :
    ∃ config partitions, outcome = .reconciled config partitions ∧ config ≠ .failed ∧
      partitions ≠ .failed := by
  rcases outcome with _ | ⟨config, partitions⟩ | _
  · exact absurd rfl hne
  · exact ⟨config, partitions, rfl, h.1, h.2.1⟩
  · exact h.elim

/-- Keys that are in line stay in line. -/
def KeepsInLine (spec : TopicSpec) (t t' : StoredTopic) : Prop :=
  ∀ e ∈ spec.owned, TopicSpec.InLine t.configs e.1 e.2 → TopicSpec.InLine t'.configs e.1 e.2

theorem KeepsInLine.drift (h : KeepsInLine spec t t') (hd : spec.drift t.configs = []) :
    spec.drift t'.configs = [] :=
  TopicSpec.drift_eq_nil_iff.mpr fun e he => h e he (TopicSpec.drift_eq_nil_iff.mp hd e he)

theorem Aligned.of_inLine {stand : Stand} (h : Aligned spec t stand)
    (hkeeps : KeepsInLine spec t t') : Aligned spec t' stand := by
  rcases stand with (_ | (_ | changes) | ⟨config, step⟩) | (_ | ⟨config, partitions⟩ | _)
  · exact h
  · exact h
  · exact ⟨h.1, fun e he => (h.2 e he).imp_right (hkeeps e he)⟩
  · exact ⟨h.1, hkeeps.drift h.2⟩
  · exact hkeeps.drift h
  · exact ⟨h.1, h.2.1, hkeeps.drift h.2.2⟩
  · exact h

/-- An agent with the same shape keeps in line what is in line. -/
theorem Moves.keepsInLine (h : Moves spec t step next t') (ha : Aligned spec t (.inl step)) :
    KeepsInLine spec t t' := by
  cases h with
  | altered changes =>
    intro e he hin
    exact TopicSpec.inLine_applyChanges ha.1 he (.inr hin)
  | _ => exact fun _ _ hin => hin

/-- After its exchange an agent can rely on the configuration, unless others have outgrown it. -/
theorem Moves.aligned (h : Moves spec t step next t') (ha : Aligned spec t (.inl step))
    (hgrowing : ∀ config before, step = .partitions config (.growing before) →
      t.partitions ≤ spec.partitions) : Aligned spec t' next := by
  cases h with
  | present => trivial
  | inLine hnil => exact ⟨nofun, hnil⟩
  | drifted _ =>
    exact ⟨TopicSpec.drift_sets spec t.configs, fun e he => TopicSpec.mem_drift_or_inLine he⟩
  | altered changes => exact ⟨nofun, TopicSpec.drift_applyChanges ha.1 ha.2⟩
  | enough config _ => exact ⟨ha.1, nofun, ha.2⟩
  | few config _ => exact ha
  | grown config before _ => exact ⟨ha.1, nofun, ha.2⟩
  | outgrown config before hgt =>
    exact absurd hgt (Nat.not_lt.mpr (hgrowing config before rfl))

end Moves

/-! ### The invariant -/

section Agents

variable {spec : ι → TopicSpec} {name : String} {stands : ι → Stand}
variable {live : Option StoredTopic} {t t' : StoredTopic}

/-- An agent that moves on without creating the topic is not one that has created it. -/
theorem created_update [DecidableEq ι] {i : ι} {step : Step} {next : Stand}
    (hi : stands i = .inl step) (hne : next ≠ .inr .created) (j : ι) :
    Function.update stands i next j = .inr .created ↔ stands j = .inr .created := by
  by_cases hj : j = i
  · subst hj
    rw [Function.update_self, hi]
    exact ⟨fun h => absurd h hne, nofun⟩
  · rw [Function.update_of_ne hj]

variable [Fintype ι]

/-- The largest partition count that any agent wants. -/
def mostWanted (spec : ι → TopicSpec) : Nat :=
  Finset.univ.sup fun i => (spec i).partitions

theorem le_mostWanted (spec : ι → TopicSpec) (i : ι) : (spec i).partitions ≤ mostWanted spec :=
  Finset.le_sup (f := fun i => (spec i).partitions) (Finset.mem_univ i)

/-- The partition count of a topic, zero when there is none. -/
def countOf (live : Option StoredTopic) : Nat :=
  live.elim 0 (·.partitions)

/-- The topic, which was `live` in the beginning, exists as `t`, and this is what the agents rely
on. -/
structure Underway (spec : ι → TopicSpec) (live : Option StoredTopic) (t : StoredTopic)
    (stands : ι → Stand) : Prop where
  lower : countOf live ≤ t.partitions
  upper : t.partitions ≤ max (countOf live) (mostWanted spec)
  relies : ∀ i, Relies (spec i) (countOf live) t (stands i)
  creator : live = none → ∃! i, stands i = .inr .created
  noCreator : live ≠ none → ∀ i, stands i ≠ .inr .created
  aligned : ∀ shape, (∀ i, spec i = shape) → ∀ i, Aligned shape t (stands i)

theorem Underway.start (spec : ι → TopicSpec) (t : StoredTopic) :
    Underway spec (some t) t fun _ => .inl .creating where
  lower := Nat.le_refl _
  upper := Nat.le_max_left _ _
  relies _ := trivial
  creator := nofun
  noCreator _ _ := nofun
  aligned _ _ _ := trivial

/-- The first to create the topic is the one that has created it. -/
theorem Underway.created [DecidableEq ι] (i : ι) (hcreating : ∀ j, stands j = .inl .creating) :
    Underway spec none (made (spec i)) (Function.update stands i (.inr .created)) where
  lower := Nat.zero_le _
  upper := Nat.le_trans (le_mostWanted spec i) (Nat.le_max_right _ _)
  relies j := by
    by_cases hj : j = i
    · subst hj
      rw [Function.update_self]
      exact Nat.le_refl _
    · rw [Function.update_of_ne hj, hcreating j]
      trivial
  creator _ := by
    refine ⟨i, Function.update_self .., ?_⟩
    intro j (hj : Function.update stands i (.inr .created) j = .inr .created)
    by_contra hne
    rw [Function.update_of_ne hne, hcreating j] at hj
    cases hj
  noCreator hne := absurd rfl hne
  aligned shape hshape j := by
    by_cases hj : j = i
    · subst hj
      rw [Function.update_self]
      show shape.drift (spec j).configs = []
      rw [hshape j]
      exact TopicSpec.drift_configs shape
    · rw [Function.update_of_ne hj, hcreating j]
      trivial

variable [DecidableEq ι]

/-- **An exchange preserves the invariant.** -/
theorem Underway.moves (h : Underway spec live t stands) {i : ι} {step : Step} {next : Stand}
    (hi : stands i = .inl step) (hm : Moves (spec i) t step next t') :
    Underway spec live t' (Function.update stands i next) where
  lower := Nat.le_trans h.lower hm.partitions.1
  upper := by
    have hwanted := le_mostWanted spec i
    have hbounds := hm.partitions.2
    have hupper := h.upper
    omega
  relies j := by
    by_cases hj : j = i
    · subst hj
      rw [Function.update_self]
      exact hm.relies h.lower
    · rw [Function.update_of_ne hj]
      exact (h.relies j).mono hm.partitions.1
  creator hnone := by
    simp only [created_update hi hm.ne_created]
    exact h.creator hnone
  noCreator hsome j := by
    rw [ne_eq, created_update hi hm.ne_created]
    exact h.noCreator hsome j
  aligned shape hshape := by
    have hi' : Aligned (spec i) t (.inl step) := by
      rw [hshape i, ← hi]
      exact h.aligned shape hshape i
    -- a count that is to be grown was too small in the beginning, so it has not passed the wanted
    -- one, which is the same for all
    have hgrowing : ∀ config before, step = .partitions config (.growing before) →
        t.partitions ≤ (spec i).partitions := by
      rintro config before rfl
      have hfirst : countOf live < (spec i).partitions := by
        have hrelies := h.relies i
        rw [hi] at hrelies
        exact hrelies
      have hsame : mostWanted spec ≤ (spec i).partitions :=
        Finset.sup_le fun j _ => Nat.le_of_eq (by rw [hshape j, hshape i])
      have hupper := h.upper
      omega
    have hkeeps : KeepsInLine shape t t' := hshape i ▸ hm.keepsInLine hi'
    intro j
    by_cases hj : j = i
    · subst hj
      rw [Function.update_self]
      exact hshape j ▸ hm.aligned hi' hgrowing
    · rw [Function.update_of_ne hj]
      exact (h.aligned shape hshape j).of_inLine hkeeps

/-! ### Every interleaving -/

variable {b₀ b : Broker τ}

/-- At every moment the topic is still to be created and nobody has moved, or it exists and the
invariant holds. -/
theorem Interleaving.invariant (hname : ∀ i, (spec i).name = name) (hfault : b₀.adminFault = none)
    (h : Interleaving spec b₀ b stands) :
    b.adminFault = none ∧
      (b.topic? name = none ∧ b₀.topic? name = none ∧ (∀ i, stands i = .inl .creating) ∨
        ∃ t, b.topic? name = some t ∧ Underway spec (b₀.topic? name) t stands) := by
  induction h with
  | start =>
    refine ⟨hfault, ?_⟩
    rcases ht : b₀.topic? name with _ | t
    · exact .inl ⟨rfl, rfl, fun _ => rfl⟩
    · exact .inr ⟨t, rfl, .start spec t⟩
  | @exchange b stands i step _ hi ih =>
    obtain ⟨hf, hstate⟩ := ih
    refine ⟨(Broker.adminFault_handle _ _).trans hf, .inr ?_⟩
    rcases hstate with ⟨habsent, hfirst, hcreating⟩ | ⟨t, ht, hunderway⟩
    · -- the topic is created
      obtain rfl : step = .creating := Sum.inl.inj (hi.symm.trans (hcreating i))
      have hbefore : b.topic? (spec i).name = none := by rwa [hname i]
      obtain ⟨houtcome, hbecame⟩ := exchange_absent hf hbefore
      rw [houtcome, hfirst]
      exact ⟨_, hname i ▸ hbecame.topic, .created i hcreating⟩
    · have ht' : b.topic? (spec i).name = some t := by rwa [hname i]
      obtain ⟨t', hmoves, hbecame⟩ := exchange_moves hf ht' step
      exact ⟨t', hname i ▸ hbecame.topic, hunderway.moves hi hmoves⟩

/-- **When all agents are done**, the topic exists with the largest of the counts, and one agent
has created it if and only if there was none. -/
theorem Interleaving.finished [Nonempty ι] (hname : ∀ i, (spec i).name = name)
    (hfault : b₀.adminFault = none) (h : Interleaving spec b₀ b stands)
    {outcome : ι → ProvisionOutcome} (hdone : ∀ i, stands i = .inr (outcome i)) :
    ∃ t, b.topic? name = some t ∧
      t.partitions = max (countOf (b₀.topic? name)) (mostWanted spec) ∧
      (b₀.topic? name = none → ∃! i, outcome i = .created) ∧
      (b₀.topic? name ≠ none → ∀ i, outcome i ≠ .created) ∧
      ∀ shape, (∀ i, spec i = shape) → shape.drift t.configs = [] ∧
        ∀ i, outcome i ≠ .created → ∃ config partitions,
          outcome i = .reconciled config partitions ∧ config ≠ .failed ∧ partitions ≠ .failed := by
  obtain ⟨-, ⟨-, -, hcreating⟩ | ⟨t, ht, hunderway⟩⟩ := h.invariant hname hfault
  · -- somebody has finished, so somebody has moved
    obtain ⟨i⟩ := ‹Nonempty ι›
    have hi := (hdone i).symm.trans (hcreating i)
    cases hi
  · have hcreated : ∀ i, stands i = .inr .created ↔ outcome i = .created := fun i => by
      rw [hdone i]
      exact ⟨Sum.inr.inj, congrArg _⟩
    refine ⟨t, ht, ?_, ?_, ?_, ?_⟩
    · -- every agent has seen to it that there are enough partitions
      have henough : mostWanted spec ≤ t.partitions :=
        Finset.sup_le fun i _ => (hdone i ▸ hunderway.relies i).enough
      exact Nat.le_antisymm hunderway.upper (Nat.max_le.mpr ⟨hunderway.lower, henough⟩)
    · intro hnone
      have hone := hunderway.creator hnone
      simp only [hcreated] at hone
      exact hone
    · intro hsome i hi
      exact hunderway.noCreator hsome i ((hcreated i).mpr hi)
    · intro shape hshape
      have haligned : ∀ i, Aligned shape t (.inr (outcome i)) := fun i =>
        hdone i ▸ hunderway.aligned shape hshape i
      obtain ⟨i⟩ := ‹Nonempty ι›
      exact ⟨(haligned i).noDrift, fun i hne => (haligned i).reconciled hne⟩

end Agents

end MetricFeed.Provisioning
