/-
MetricFeed/Proofs/Provisioning/Fleet.lean

A fleet of agents in one world, each with its own provisioning of the same topic.  Time passes, and
agents take turns in any order: in a turn an agent makes the call of its step, or takes the answer
and goes on.

When the world serves administrative requests, turns come in pairs, which are exchanges with the
broker (`advance_cases`); so what a fleet does is an interleaving of exchanges (`Reached.course`),
and each agent is done after ten turns at most.

Main result (`Reached.provisioned`): what a fleet makes of the topic, and the outcomes.
-/
import MetricFeed.Proofs.Provisioning.Interleaving
import Mathlib.Logic.Function.Basic

namespace MetricFeed.Rehearsal

open Provisioning (Stand Step provision)

variable {ι : Type}

/-! ### An agent's turns -/

section Agent

variable {spec : TopicSpec}

/-- An agent with its provisioning in progress or ended. -/
abbrev Provisional (spec : TopicSpec) :=
  (provision spec).Progress World ⊕ Reply ProvisionOutcome

namespace Provisional

/-- Where the agent stands; a panic counts as if it had given up. -/
def stand : Provisional spec → Stand
  | .inl p => .inl p.step
  | .inr (.value outcome) => .inr outcome
  | .inr (.panicked _) => .inr .abandoned

/-- How many turns the agent takes until it is done, at most. -/
def turnsLeft : Provisional spec → Nat
  | .inl ⟨step, none⟩ => 2 * step.rank
  | .inl ⟨step, some _⟩ => 2 * step.rank - 1
  | .inr _ => 0

/-- The agent's call, if it has made one, is one that is answered at once. -/
def Prompt (timeout : Duration) (now : Nat) : Provisional spec → Prop
  | .inl ⟨_, none⟩ => True
  | .inl ⟨step, some call⟩ =>
    ∃ made, made ≤ now ∧ call = (provision spec).promptCall step timeout made
  | .inr (.value _) => True
  | .inr (.panicked _) => False

theorem Prompt.later {timeout : Duration} {now later : Nat} {agent : Provisional spec}
    (h : agent.Prompt timeout now) (hle : now ≤ later) : agent.Prompt timeout later := by
  rcases agent with ⟨step, _ | call⟩ | _ | _
  · trivial
  · obtain ⟨made, hmade, hcall⟩ := h
    exact ⟨made, Nat.le_trans hmade hle, hcall⟩
  · trivial
  · exact h

theorem Prompt.isDue {timeout : Duration} {now : Nat} {p : (provision spec).Progress World}
    (h : Prompt timeout now (.inl p)) : p.isDue now = true := by
  obtain ⟨step, _ | call⟩ := p
  · rfl
  · obtain ⟨made, hmade, rfl⟩ := h
    simp [Dialogue.Progress.isDue, Call.isDue, Dialogue.isAnswered_promptCall hmade]

theorem stand_onward (next : Stand) :
    stand (Dialogue.Progress.onward next : Provisional spec) = next := by
  rcases next with _ | _ <;> rfl

theorem prompt_onward (timeout : Duration) (now : Nat) (next : Stand) :
    Prompt timeout now (Dialogue.Progress.onward next : Provisional spec) := by
  rcases next with _ | _ <;> trivial

theorem turnsLeft_pos (p : (provision spec).Progress World) : 0 < turnsLeft (.inl p) := by
  obtain ⟨step, _ | call⟩ := p
  · have hpos := Provisioning.rank_pos step
    show 0 < 2 * step.rank
    omega
  · have hpos := Provisioning.rank_pos step
    show 0 < 2 * step.rank - 1
    omega

theorem turnsLeft_onward_lt {step : Step} {next : Stand}
    (h : ∀ s, next = .inl s → s.rank < step.rank) :
    turnsLeft (Dialogue.Progress.onward next : Provisional spec) < 2 * step.rank - 1 := by
  rcases next with s | outcome
  · have hlt := h s rfl
    show 2 * s.rank < 2 * step.rank - 1
    omega
  · have hpos := Provisioning.rank_pos step
    show 0 < 2 * step.rank - 1
    omega

/-- **A turn makes a call or completes an exchange.** -/
theorem advance_cases {timeout : Duration} {now : Nat} {w : World} (hw : w.Serves)
    {p : (provision spec).Progress World} (hp : Prompt timeout now (.inl p)) :
    ∃ agent w', p.advance World.administration World.note timeout now w = (agent, w') ∧
      w'.Serves ∧ Prompt timeout now agent ∧ turnsLeft agent < turnsLeft (.inl p) ∧
      (stand agent = .inl p.step ∧ w' = w ∨
        stand agent = ((provision spec).exchange p.step w.broker).1 ∧
          w'.broker = ((provision spec).exchange p.step w.broker).2) := by
  obtain ⟨step, _ | call⟩ := p
  · -- the call is made
    refine ⟨_, _, Dialogue.Progress.advance_calling hw timeout now, hw,
      ⟨now, Nat.le_refl _, rfl⟩, ?_, .inl ⟨rfl, rfl⟩⟩
    have hpos := Provisioning.rank_pos step
    show 2 * step.rank - 1 < 2 * step.rank
    omega
  · -- the answer is taken
    obtain ⟨made, hmade, rfl⟩ := hp
    obtain ⟨w', hadvance, hbroker, hscripts⟩ :=
      Dialogue.Progress.advance_prompt (provision spec) step w hmade timeout
    refine ⟨_, w', hadvance, hw.exchange hbroker hscripts, prompt_onward _ _ _,
      turnsLeft_onward_lt fun s hs => ?_, .inr ⟨stand_onward _, hbroker⟩⟩
    exact Provisioning.rank_next hs

end Provisional

end Agent

/-! ### Fleets -/

/-- Agents in one world, each with its provisioning, and the present instant. -/
structure Fleet (spec : ι → TopicSpec) where
  now : Nat
  world : World
  agents : (i : ι) → Provisional (spec i)

namespace Fleet

variable [DecidableEq ι] {spec : ι → TopicSpec}

/-- Agents that all begin. -/
def beginning (spec : ι → TopicSpec) (now : Nat) (w : World) : Fleet spec :=
  ⟨now, w, fun _ => .inl { step := .creating }⟩

/-- The turn of an agent whose provisioning is in progress. -/
def turn (f : Fleet spec) (timeout : Duration) (i : ι) (p : (provision (spec i)).Progress World) :
    Fleet spec :=
  let (agent, w) := p.advance World.administration World.note timeout f.now f.world
  { f with world := w, agents := Function.update f.agents i agent }

/-- What a fleet that begins in the world `w₀` comes to, and how many turns each agent has
taken. -/
inductive Reached (timeout : ι → Duration) (w₀ : World) : (ι → Nat) → Fleet spec → Prop
  | start (now : Nat) : Reached timeout w₀ (fun _ => 0) (beginning spec now w₀)
  | wait {turns : ι → Nat} {f : Fleet spec} {later : Nat} : Reached timeout w₀ turns f →
    f.now ≤ later → Reached timeout w₀ turns { f with now := later }
  | turn {turns : ι → Nat} {f : Fleet spec} (i : ι) (p : (provision (spec i)).Progress World) :
    Reached timeout w₀ turns f → f.agents i = .inl p →
    Reached timeout w₀ (Function.update turns i (turns i + 1)) (f.turn (timeout i) i p)

variable {timeout : ι → Duration} {w₀ : World} {turns : ι → Nat} {f : Fleet spec}

/-- **What a fleet does is an interleaving of exchanges**, in which no agent takes more than ten
turns. -/
theorem Reached.course (hw₀ : w₀.Serves) (h : Reached timeout w₀ turns f) :
    f.world.Serves ∧ (∀ i, (f.agents i).Prompt (timeout i) f.now) ∧
      (∀ i, turns i + (f.agents i).turnsLeft ≤ 10) ∧
      Provisioning.Interleaving spec w₀.broker f.world.broker fun i => (f.agents i).stand := by
  induction h with
  | start now =>
    exact ⟨hw₀, fun _ => trivial, fun _ => Nat.le_refl _, .start⟩
  | wait _ hle ih =>
    obtain ⟨hw, hprompt, hturns, hcourse⟩ := ih
    exact ⟨hw, fun i => (hprompt i).later hle, hturns, hcourse⟩
  | @turn turns f i p _ hi ih =>
    obtain ⟨hw, hprompt, hturns, hcourse⟩ := ih
    obtain ⟨agent, w', hadvance, hw', hagent, hlt, hstand⟩ :=
      Provisional.advance_cases hw (hi ▸ hprompt i)
    have hturn : f.turn (timeout i) i p =
        { f with world := w', agents := Function.update f.agents i agent } := by
      unfold Fleet.turn
      rw [hadvance]
    have hstands : (fun j => Provisional.stand (Function.update f.agents i agent j)) =
        Function.update (fun j => (f.agents j).stand) i (Provisional.stand agent) :=
      funext fun j => Function.apply_update (fun _ => Provisional.stand) f.agents i agent j
    have hsi : (f.agents i).stand = .inl p.step := by
      rw [hi]
      rfl
    rw [hturn]
    refine ⟨hw', fun j => ?_, fun j => ?_, ?_⟩
    · by_cases hj : j = i
      · subst hj
        simpa using hagent
      · simpa [hj] using hprompt j
    · by_cases hj : j = i
      · subst hj
        have hleft := hturns j
        rw [hi] at hleft
        simp only [Function.update_self]
        omega
      · simpa [hj] using hturns j
    · show Provisioning.Interleaving spec w₀.broker w'.broker
        fun j => Provisional.stand (Function.update f.agents i agent j)
      rw [hstands]
      rcases hstand with ⟨hsame, rfl⟩ | ⟨hnext, hbroker⟩
      · -- the agent stands where it stood
        rw [hsame, ← hsi, Function.update_eq_self]
        exact hcourse
      · rw [hnext, hbroker]
        exact hcourse.exchange i p.step hsi

/-- A turn takes no partitions away. -/
theorem widens_turn {timeout : Duration} {i : ι} {p : (provision (spec i)).Progress World}
    (hw : f.world.Serves) (hp : Provisional.Prompt timeout f.now (.inl p)) :
    f.world.broker.Widens (f.turn timeout i p).world.broker := by
  obtain ⟨agent, w', hadvance, -, -, -, hstand⟩ := Provisional.advance_cases hw hp
  have hworld : (f.turn timeout i p).world = w' := by
    unfold turn
    rw [hadvance]
  rw [hworld]
  rcases hstand with ⟨-, rfl⟩ | ⟨-, hbroker⟩
  · exact fun _ t ht => ⟨t, ht, Nat.le_refl _⟩
  · rw [hbroker]
    exact (Broker.reshapes_handle _ _).widens

/-- **What a fleet makes of the topic.**  In every world that serves administrative requests, and in
whatever order the agents take their turns:

* the partition count never decreases;
* an agent that is not done can take its next turn at once, and is done after ten turns at most;
* when all agents are done, the partition count is the largest of the first one and those that the
  agents want, and exactly one agent has created the topic if there was none, none otherwise;
* if moreover all want the same, then all other agents have reconciled without a failure, and the
  configuration has no drift. -/
theorem Reached.provisioned [Fintype ι] [Nonempty ι] {name : String}
    (hname : ∀ i, (spec i).name = name) (hw₀ : w₀.Serves) (h : Reached timeout w₀ turns f) :
    (∀ i p, f.agents i = .inl p → ∀ t, f.world.broker.topic? name = some t →
      ∃ t', (f.turn (timeout i) i p).world.broker.topic? name = some t' ∧
        t.partitions ≤ t'.partitions) ∧
    (∀ i p, f.agents i = .inl p → p.isDue f.now = true ∧ turns i < 10) ∧
    (∀ i message, f.agents i ≠ .inr (.panicked message)) ∧
    ∀ outcome : ι → ProvisionOutcome, (∀ i, f.agents i = .inr (.value (outcome i))) →
      ∃ t, f.world.broker.topic? name = some t ∧
        t.partitions = max ((w₀.broker.topic? name).elim 0 (·.partitions))
          (Finset.univ.sup fun i => (spec i).partitions) ∧
        (w₀.broker.topic? name = none → ∃! i, outcome i = .created) ∧
        (w₀.broker.topic? name ≠ none → ∀ i, outcome i ≠ .created) ∧
        ∀ shape, (∀ i, spec i = shape) → shape.drift t.configs = [] ∧
          ∀ i, outcome i ≠ .created → ∃ config partitions,
            outcome i = .reconciled config partitions ∧
              config ≠ .failed ∧ partitions ≠ .failed := by
  obtain ⟨hw, hprompt, hturns, hcourse⟩ := h.course hw₀
  refine ⟨?_, ?_, ?_, ?_⟩
  · intro i p hi t ht
    exact widens_turn hw (hi ▸ hprompt i) name t ht
  · intro i p hi
    refine ⟨(hi ▸ hprompt i : Provisional.Prompt _ _ (.inl p)).isDue, ?_⟩
    have hleft := hturns i
    rw [hi] at hleft
    have hpos := Provisional.turnsLeft_pos p
    omega
  · intro i message hi
    have hpanic := hprompt i
    rw [hi] at hpanic
    exact hpanic
  · intro outcome hdone
    exact hcourse.finished hname hw₀.noFault fun i => congrArg Provisional.stand (hdone i)

/-- Lets agents take turns in the given order; those that are done take none. -/
def play (timeout : ι → Duration) (f : Fleet spec) (order : List ι) : Fleet spec :=
  order.foldl (fun f i =>
    match f.agents i with
    | .inl p => f.turn (timeout i) i p
    | .inr _ => f) f

theorem Reached.play (h : Reached timeout w₀ turns f) (order : List ι) :
    ∃ turns', Reached timeout w₀ turns' (f.play timeout order) := by
  induction order generalizing turns f with
  | nil => exact ⟨turns, h⟩
  | cons i rest ih =>
    rcases hi : f.agents i with p | reply
    · obtain ⟨turns', hrest⟩ := ih (h.turn i p hi)
      refine ⟨turns', ?_⟩
      simpa only [Fleet.play, List.foldl_cons, hi] using hrest
    · obtain ⟨turns', hrest⟩ := ih h
      refine ⟨turns', ?_⟩
      simpa only [Fleet.play, List.foldl_cons, hi] using hrest

/-- Two agents that want three partitions of a topic that does not exist.  The second one has made
its call before the first one creates the topic. -/
def pair : Fleet fun _ : Fin 2 =>
    { name := "metrics", partitions := 3, replication := 1, retention := .ofSeconds 1
      cleanupPolicy := .delete, partitions_pos := by decide, replication_pos := Nat.one_pos } :=
  (beginning _ 0 {}).play (fun _ => ⟨0⟩) [1, 0, 0, 1, 1, 1, 1, 1]

theorem provisioned_pair :
    (∃ t, pair.world.broker.topic? "metrics" = some t ∧ t.partitions = 3) ∧
      ∃! i, pair.agents i = .inr (.value .created) := by
  have hserves : ({} : World).Serves := ⟨fun _ => rfl, rfl⟩
  obtain ⟨turns, hrun⟩ : ∃ turns, Reached _ {} turns pair := (Reached.start 0).play _
  have hdone : ∀ i, pair.agents i = .inr (.value
      (if i = 0 then .created else .reconciled .unchanged (.unchanged 3))) := fun i =>
    match i with
    | 0 => rfl
    | 1 => rfl
  obtain ⟨-, -, -, hend⟩ := hrun.provisioned (fun _ => rfl) hserves
  obtain ⟨t, ht, hcount, hone, -, -⟩ := hend _ hdone
  refine ⟨⟨t, ht, hcount⟩, ?_⟩
  simpa only [hdone, Sum.inr.injEq, Reply.value.injEq] using hone rfl

end Fleet

end MetricFeed.Rehearsal
