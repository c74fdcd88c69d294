/-
MetricFeed/Proofs/Provisioning/Convergence.lean

A provisioning that the broker serves brings the topic into its wanted shape, whatever it finds,
and finds nothing to do when it is repeated.

A provisioning is held one exchange after the other (`Provisioning.hold`); in a world that serves
administrative requests, this is what comes of it in time (`await_provision`).  It is followed
phase by phase: the configuration is brought in line (`hold_describing`), then the partitions are
(`hold_measuring`).  The topic that is left is described by `Provisioning.Shaped`, whether it has
been created or reshaped (`hold_creating`); such a topic is left alone by a further provisioning
(`hold_shaped`).

Main result (`provision_converges`): the two turns of a session one after the other.
-/
import MetricFeed.Proofs.Provisioning.Exchange
import MetricFeed.Proofs.Topic.Minimality
import MetricFeed.Rehearsal.Parts

namespace MetricFeed

variable {τ : Type}

namespace Provisioning

/-! ### Holding a provisioning -/

/-- Holds a provisioning with a broker that nobody else uses: one exchange after the other, and
what comes of it. -/
def hold (spec : TopicSpec) (step : Step) (b : Broker τ) : ProvisionOutcome × Broker τ :=
  match _h : (provision spec).exchange step b with
  | (.inl next, b') => hold spec next b'
  | (.inr outcome, b') => (outcome, b')
termination_by step.rank
decreasing_by exact rank_exchange _h

section Hold

variable {spec : TopicSpec} {b b' : Broker τ} {t : StoredTopic}

theorem hold_of_inl {step next : Step}
    (h : (provision spec).exchange step b = (.inl next, b')) :
    hold spec step b = hold spec next b' := by
  rw [hold]
  split
  · rename_i heq
    rw [h] at heq
    cases heq
    rfl
  · rename_i heq
    rw [h] at heq
    cases heq

theorem hold_of_inr {step : Step} {outcome : ProvisionOutcome}
    (h : (provision spec).exchange step b = (.inr outcome, b')) :
    hold spec step b = (outcome, b') := by
  rw [hold]
  split
  · rename_i heq
    rw [h] at heq
    cases heq
  · rename_i heq
    rw [h] at heq
    cases heq
    rfl

/-! ### Phase by phase -/

/-- What becomes of a partition count. -/
def grownTo (spec : TopicSpec) (live : Nat) : PartitionOutcome :=
  if spec.partitions ≤ live then .unchanged live else .increased live spec.partitions

/-- The partitions are brought in line: the larger count stays or is reached. -/
theorem hold_measuring (hb : b.adminFault = none) (ht : b.topic? spec.name = some t)
    (config : ConfigOutcome) :
    (hold spec (.partitions config .measuring) b).1 =
        .reconciled config (grownTo spec t.partitions) ∧
      ∃ calls, b.Became spec.name { t with partitions := max t.partitions spec.partitions }
          (.describeTopic spec.name :: calls) (hold spec (.partitions config .measuring) b).2 ∧
        (spec.partitions ≤ t.partitions → calls = []) := by
  obtain ⟨t₁, hmoves, hbecame⟩ := exchange_moves hb ht (.partitions config .measuring)
  generalize he : (provision spec).exchange (.partitions config .measuring) b = e at hmoves hbecame
  obtain ⟨onward, b₁⟩ := e
  cases hmoves with
  | enough _ hle =>
    rw [hold_of_inr he, Nat.max_eq_left hle]
    refine ⟨?_, [], hbecame, fun _ => rfl⟩
    rw [grownTo, if_pos hle]
  | few _ hlt =>
    -- the count is raised, and nobody has raised it further
    obtain ⟨t₂, hmoves₂, hbecame₂⟩ := exchange_moves (hbecame.fault.trans hb) hbecame.topic
      (.partitions config (.growing t.partitions))
    generalize he₂ : (provision spec).exchange (.partitions config (.growing t.partitions)) b₁ = e
      at hmoves₂ hbecame₂
    obtain ⟨onward₂, b₂⟩ := e
    rw [hold_of_inl he]
    cases hmoves₂ with
    | grown _ _ hle =>
      rw [hold_of_inr he₂, Nat.max_eq_right hle]
      refine ⟨?_, _, hbecame.trans hbecame₂, fun hge => absurd hlt (Nat.not_lt.mpr hge)⟩
      rw [grownTo, if_neg (Nat.not_le.mpr hlt)]
    | outgrown _ _ hgt => exact absurd hlt (Nat.not_lt.mpr (Nat.le_of_lt hgt))

/-- The configuration is brought in line, and the partitions come next. -/
theorem hold_describing (hb : b.adminFault = none) (ht : b.topic? spec.name = some t) :
    ∃ config calls b₁,
      hold spec (.config .describing) b = hold spec (.partitions config .measuring) b₁ ∧
      b.Became spec.name
        { t with configs := applyChanges t.configs (spec.drift t.configs) }
        (.describeConfig spec.name :: calls) b₁ ∧
      (spec.drift t.configs = [] → config = .unchanged ∧ calls = []) := by
  obtain ⟨t₁, hmoves, hbecame⟩ := exchange_moves hb ht (.config .describing)
  generalize he : (provision spec).exchange (.config .describing) b = e at hmoves hbecame
  obtain ⟨onward, b₁⟩ := e
  cases hmoves with
  | inLine hnil =>
    refine ⟨.unchanged, [], b₁, hold_of_inl he, ?_, fun _ => ⟨rfl, rfl⟩⟩
    rw [hnil]
    exact hbecame
  | drifted hne =>
    obtain ⟨t₂, hmoves₂, hbecame₂⟩ := exchange_moves (hbecame.fault.trans hb) hbecame.topic
      (.config (.altering (spec.drift t.configs)))
    generalize he₂ :
      (provision spec).exchange (.config (.altering (spec.drift t.configs))) b₁ = e
      at hmoves₂ hbecame₂
    obtain ⟨onward₂, b₂⟩ := e
    cases hmoves₂ with
    | altered =>
      exact ⟨_, _, b₂, (hold_of_inl he).trans (hold_of_inl he₂), hbecame.trans hbecame₂,
        fun hnil => absurd hnil hne⟩

/-- With a topic that exists, creating it leads to bringing it in line. -/
theorem hold_creating_present (hb : b.adminFault = none) (ht : b.topic? spec.name = some t) :
    ∃ b₁, hold spec .creating b = hold spec (.config .describing) b₁ ∧
      b.Became spec.name t [.createTopic spec.name] b₁ := by
  obtain ⟨t₁, hmoves, hbecame⟩ := exchange_moves hb ht .creating
  generalize he : (provision spec).exchange .creating b = e at hmoves hbecame
  obtain ⟨onward, b₁⟩ := e
  cases hmoves with
  | present => exact ⟨b₁, hold_of_inl he, hbecame⟩

/-! ### From creating to the end -/

/-- The topic `t` is what the shape makes of a topic, or of none: its partition count is the larger
one, its configuration has no drift, and everything else is as it was. -/
structure Shaped (spec : TopicSpec) (live : Option StoredTopic) (t : StoredTopic) : Prop where
  partitions : t.partitions = max (live.elim 0 (·.partitions)) spec.partitions
  inLine : spec.drift t.configs = []
  otherKeys : ∀ key, key ≠ CleanupPolicy.configKey → key ≠ TopicSpec.retentionKey →
    t.configs.get? key = live.bind (·.configs.get? key)
  records : t.records = live.elim #[] (·.records)

theorem shaped_made (spec : TopicSpec) : Shaped spec none (made spec) where
  partitions := (Nat.zero_max _).symm
  inLine := TopicSpec.drift_configs spec
  otherKeys key hp hr := by
    show spec.configs.get? key = none
    rw [TopicSpec.get?_configs, if_neg hr, if_neg hp]
  records := rfl

theorem shaped_altered (spec : TopicSpec) (t : StoredTopic) :
    Shaped spec (some t)
      { t with
        configs := applyChanges t.configs (spec.drift t.configs)
        partitions := max t.partitions spec.partitions } where
  partitions := rfl
  inLine := TopicSpec.drift_applyChanges (TopicSpec.drift_sets spec t.configs)
    fun _ he => TopicSpec.mem_drift_or_inLine he
  otherKeys _ hp hr :=
    TopicSpec.get?_applyChanges_of_not_owned (TopicSpec.drift_sets spec t.configs) hp hr
  records := rfl

/-- **A provisioning brings the topic into shape**, whatever it finds. -/
theorem hold_creating (spec : TopicSpec) (hb : b.adminFault = none) :
    ∃ t calls, b.Became spec.name t calls (hold spec .creating b).2 ∧
      Shaped spec (b.topic? spec.name) t := by
  rcases ht : b.topic? spec.name with _ | t
  · -- the topic is created
    obtain ⟨houtcome, hbecame⟩ := exchange_absent hb ht
    generalize he : (provision spec).exchange .creating b = e at houtcome hbecame
    obtain ⟨onward, b₁⟩ := e
    obtain rfl : onward = .inr .created := houtcome
    rw [hold_of_inr he]
    exact ⟨made spec, _, hbecame, shaped_made spec⟩
  · -- the topic is brought in line
    obtain ⟨b₁, hcreating, h₁⟩ := hold_creating_present hb ht
    obtain ⟨config, calls, b₂, hconfig, h₂, -⟩ :=
      hold_describing (h₁.fault.trans hb) h₁.topic
    obtain ⟨-, calls', h₃, -⟩ :=
      hold_measuring ((h₁.trans h₂).fault.trans hb) h₂.topic config
    rw [hcreating, hconfig]
    exact ⟨_, _, (h₁.trans h₂).trans h₃, shaped_altered spec t⟩

/-- **A topic in shape is left alone**: it is looked at, and nothing else. -/
theorem hold_shaped (hb : b.adminFault = none) (ht : b.topic? spec.name = some t)
    (hdrift : spec.drift t.configs = []) (hle : spec.partitions ≤ t.partitions) :
    (hold spec .creating b).1 = .reconciled .unchanged (.unchanged t.partitions) ∧
      b.Became spec.name t
        [.createTopic spec.name, .describeConfig spec.name, .describeTopic spec.name]
        (hold spec .creating b).2 := by
  obtain ⟨b₁, hcreating, h₁⟩ := hold_creating_present hb ht
  obtain ⟨config, calls, b₂, hconfig, h₂, hcalm⟩ := hold_describing (h₁.fault.trans hb) h₁.topic
  obtain ⟨rfl, rfl⟩ := hcalm hdrift
  obtain ⟨houtcome, calls, h₃, hcalm'⟩ :=
    hold_measuring ((h₁.trans h₂).fault.trans hb) h₂.topic .unchanged
  obtain rfl := hcalm' hle
  rw [hcreating, hconfig]
  refine ⟨?_, ?_⟩
  · rw [houtcome, grownTo, if_pos hle]
  · have htopic := (h₁.trans h₂).trans h₃
    rw [hdrift, Nat.max_eq_left hle] at htopic
    exact htopic

end Hold

end Provisioning

/-! ### In time -/

namespace Rehearsal

open Scheduler (Waiting)

section Await

variable {σ α : Type} {d : Dialogue σ α} {timeout : Duration}

/-- Waits for a dialogue in a world. -/
abbrev waiting (d : Dialogue σ α) (timeout : Duration) :
    Waiting (Scheduler World Handle) (d.Progress World) (Reply α) :=
  .forDialogue d World.administration World.note timeout

/-- A wait for a dialogue that can go on takes a step. -/
theorem await_of_isDue {p : d.Progress World} {sch : Scheduler World Handle} (fuel : Nat)
    (h : p.isDue sch.now = true) :
    Scheduler.await id (fun _ sch => sch) (waiting d timeout) (fuel + 1) p sch =
      match p.advance World.administration World.note timeout sch.now sch.state with
      | (.inl p', w) => Scheduler.await id (fun _ sch => sch) (waiting d timeout) fuel p'
          (sch.setState w)
      | (.inr reply, w) => (some reply, sch.setState w) := by
  have hdue : (waiting d timeout).isDue sch p = true := h
  have hstep : (waiting d timeout).step sch p =
      ((p.advance World.administration World.note timeout sch.now sch.state).1,
        sch.setState (p.advance World.administration World.note timeout sch.now sch.state).2) :=
    rfl
  rw [Scheduler.await, if_pos hdue, hstep]
  rcases p.advance World.administration World.note timeout sch.now sch.state with ⟨_ | _, w⟩
  · rfl
  · rfl

/-- Two steps of a wait are an exchange, when the world serves administrative requests. -/
theorem await_exchange (d : Dialogue σ α) (timeout : Duration) (step : σ)
    {sch : Scheduler World Handle} (fuel : Nat) (h : sch.state.Serves) :
    ∃ sch' : Scheduler World Handle,
      Scheduler.await id (fun _ sch => sch) (waiting d timeout) (fuel + 2) { step } sch =
        (match (d.exchange step sch.state.broker).1 with
        | .inl next =>
          Scheduler.await id (fun _ sch => sch) (waiting d timeout) fuel { step := next } sch'
        | .inr a => (some (.value a), sch')) ∧
      sch'.state.broker = (d.exchange step sch.state.broker).2 ∧ sch'.state.Serves := by
  obtain ⟨w, hadvance, hbroker, hscripts⟩ :=
    Dialogue.Progress.advance_prompt d step sch.state (Nat.le_refl sch.now) timeout
  -- the world is as it was when the call has been made
  let called : Scheduler World Handle := sch.setState sch.state
  have hcalled : ({ step, call := some (d.promptCall step timeout sch.now) } :
      d.Progress World).isDue called.now = true := by
    have hanswered : (d.promptCall step timeout sch.now).isAnswered called.now = true :=
      Dialogue.isAnswered_promptCall (Nat.le_refl sch.now)
    simp [Dialogue.Progress.isDue, Call.isDue, hanswered]
  refine ⟨called.setState w, ?_, hbroker, h.exchange hbroker hscripts⟩
  rw [await_of_isDue (fuel + 1) rfl, Dialogue.Progress.advance_calling h]
  dsimp only
  rw [await_of_isDue fuel hcalled]
  have hcall : ({ step, call := some (d.promptCall step timeout sch.now) } :
      d.Progress World).advance World.administration World.note timeout called.now called.state =
        (Dialogue.Progress.onward (d.exchange step sch.state.broker).1, w) := hadvance
  rw [hcall]
  rcases (d.exchange step sch.state.broker).1 with next | a
  · rfl
  · rfl

end Await

/-- **Held in time, a provisioning comes to the same**, if the world serves its requests. -/
theorem await_provision (spec : TopicSpec) (timeout : Duration) {fuel : Nat}
    {step : Provisioning.Step} {sch : Scheduler World Handle} (hfuel : 2 * step.rank ≤ fuel)
    (h : sch.state.Serves) :
    ∃ sch' : Scheduler World Handle,
      Scheduler.await id (fun _ sch => sch) (waiting (Provisioning.provision spec) timeout) fuel
          { step } sch =
        (some (.value (Provisioning.hold spec step sch.state.broker).1), sch') ∧
      sch'.state.broker = (Provisioning.hold spec step sch.state.broker).2 ∧
      sch'.state.Serves := by
  induction hr : step.rank using Nat.strongRecOn generalizing fuel step sch with
  | ind r ih =>
    subst hr
    have hpos : 0 < step.rank := Provisioning.rank_pos step
    obtain ⟨fuel, rfl⟩ : ∃ k, fuel = k + 2 := ⟨fuel - 2, by omega⟩
    obtain ⟨sch₁, hawait, hbroker, hserves⟩ :=
      await_exchange (Provisioning.provision spec) timeout step fuel h
    rw [hawait]
    generalize he : (Provisioning.provision spec).exchange step sch.state.broker = e at hbroker ⊢
    obtain ⟨next | outcome, b₁⟩ := e
    · obtain rfl : sch₁.state.broker = b₁ := hbroker
      have hlt := Provisioning.rank_exchange he
      rw [Provisioning.hold_of_inl he]
      exact ih next.rank hlt (by omega) hserves rfl
    · rw [Provisioning.hold_of_inr he]
      exact ⟨sch₁, rfl, hbroker, hserves⟩

/-! ### Turns of a session -/

namespace Session

/-- The broker of a session. -/
def broker (s : Session) : Broker Ticket := s.scheduler.state.broker

/-- A session that waits does so within its scheduler. -/
theorem await_apply {σ α : Type} (w : Scheduler.Waiting (Scheduler World Handle) σ α) (st : σ)
    (s : Session) :
    Session.await w st s =
      match Scheduler.await id (fun _ sch => sch) w patience st s.scheduler with
      | (result, sch) => (result, { s with scheduler := sch }) := rfl

/-- Holding a dialogue waits within the session's scheduler, and touches nothing else. -/
theorem hold_of_await {σ α : Type} {d : Dialogue σ α} {timeout : Duration} {step : σ}
    {s : Session} {result : Option (Reply α)} {sch : Scheduler World Handle}
    (h : Scheduler.await id (fun _ sch => sch) (waiting d timeout) patience { step } s.scheduler =
      (result, sch)) :
    Session.hold d timeout step s = (result, { s with scheduler := sch }) := by
  show Session.await (waiting d timeout) { step } s = _
  rw [await_apply, h]

/-- A turn that provisions is a provisioning held with the session's broker. -/
theorem provision_eq {s : Session} {p : Provisioner} (hp : s.provisioner? = some p)
    (h : s.scheduler.state.Serves) :
    ∃ s' : Session,
      Session.provision s =
        (some (.value (Provisioning.hold p.spec .creating s.broker).1), s') ∧
      s'.broker = (Provisioning.hold p.spec .creating s.broker).2 ∧
      s'.provisioner? = some p ∧ s'.scheduler.state.Serves := by
  have hfuel : 2 * Provisioning.Step.creating.rank ≤ patience := by decide
  obtain ⟨sch, hawait, hbroker, hserves⟩ :=
    await_provision p.spec p.timeout hfuel h
  refine ⟨{ s with scheduler := sch }, ?_, hbroker, hp, hserves⟩
  have hturn : Session.provision s =
      Session.hold (Provisioning.provision p.spec) p.timeout .creating s := by
    simp only [Session.provision, bind, StateT.bind, get, getThe, MonadStateOf.get, StateT.get,
      pure, hp]
  rw [hturn]
  exact hold_of_await hawait

/-- **Provisioning converges and is idempotent.**  Whatever a session's broker holds, a turn that
provisions comes to an outcome and leaves the topic with the larger partition count and without
drift: its retention is the wanted number of milliseconds, but for blanks around it, and its policy
names the wanted actions.  Keys that are not owned, the topic's records and all other topics are as
before.  A further turn finds nothing to do: the broker is asked for the topic, its configuration
and its layout, and for nothing else. -/
theorem provision_converges {s : Session} {p : Provisioner} (hp : s.provisioner? = some p)
    (h : s.scheduler.state.Serves) :
    ∃ outcome t s₁ s₂,
      Session.provision s = (some (.value outcome), s₁) ∧
      s₁.broker.topic? p.spec.name = some t ∧
      t.partitions =
        max ((s.broker.topic? p.spec.name).elim 0 (·.partitions)) p.spec.partitions ∧
      p.spec.drift t.configs = [] ∧
      (∃ current, t.configs.get? TopicSpec.retentionKey = some current ∧
        Text.trim current = toString p.spec.retention.wholeMillis) ∧
      (∃ current, t.configs.get? CleanupPolicy.configKey = some current ∧
        CleanupPolicy.Means (CleanupPolicy.entries current) p.spec.cleanupPolicy) ∧
      (∀ key, key ≠ CleanupPolicy.configKey → key ≠ TopicSpec.retentionKey →
        t.configs.get? key = (s.broker.topic? p.spec.name).bind (·.configs.get? key)) ∧
      s₁.broker.records p.spec.name = s.broker.records p.spec.name ∧
      (∀ other, other ≠ p.spec.name → s₁.broker.topic? other = s.broker.topic? other) ∧
      Session.provision s₁ =
        (some (.value (.reconciled .unchanged (.unchanged t.partitions))), s₂) ∧
      (∀ name, s₂.broker.topic? name = s₁.broker.topic? name) ∧
      s₂.broker.adminCalls.toList = s₁.broker.adminCalls.toList ++
        [.createTopic p.spec.name, .describeConfig p.spec.name, .describeTopic p.spec.name] := by
  obtain ⟨s₁, hfirst, hbroker₁, hp₁, h₁⟩ := provision_eq hp h
  have hfault : s.broker.adminFault = none := h.noFault
  obtain ⟨t, calls, hbecame, hshaped⟩ := Provisioning.hold_creating p.spec hfault
  obtain ⟨s₂, hsecond, hbroker₂, -, -⟩ := provision_eq hp₁ h₁
  have ht : s₁.broker.topic? p.spec.name = some t := by
    rw [hbroker₁]
    exact hbecame.topic
  have hle : p.spec.partitions ≤ t.partitions := by
    rw [hshaped.partitions]
    exact Nat.le_max_right _ _
  have hfault₁ : s₁.broker.adminFault = none := h₁.noFault
  obtain ⟨houtcome, hstill⟩ := Provisioning.hold_shaped hfault₁ ht hshaped.inLine hle
  rw [← hbroker₂] at hstill
  obtain ⟨hretention, hpolicy⟩ := TopicSpec.drift_eq_nil_iff_text.mp hshaped.inLine
  refine ⟨_, t, s₁, s₂, hfirst, ht, hshaped.partitions, hshaped.inLine, hretention, hpolicy,
    hshaped.otherKeys, ?_, ?_, ?_, ?_, hstill.calls⟩
  · rw [Broker.records_of_topic? ht]
    exact hshaped.records
  · intro other hne
    rw [hbroker₁]
    exact hbecame.others other hne
  · rw [hsecond, houtcome]
  · intro name
    by_cases hname : name = p.spec.name
    · subst hname
      exact hstill.topic.trans ht.symm
    · exact hstill.others name hname

/-- A session whose broker holds the topic with half the wanted partitions, another retention and
a key that is not owned. -/
def outdated : Session :=
  { scheduler :=
      { state := World.addTopic "metrics" 2
          (TextMap.ofList [("retention.ms", "60"), ("segment.ms", "7")]) {} }
    provisioner? := some
      { spec :=
          { name := "metrics", partitions := 4, replication := 1, retention := .ofSeconds 1
            cleanupPolicy := .delete
            partitions_pos := by decide, replication_pos := Nat.one_pos } } }

theorem provision_converges_outdated :
    ∃ outcome t s₁ s₂,
      Session.provision outdated = (some (.value outcome), s₁) ∧
      s₁.broker.topic? "metrics" = some t ∧ t.partitions = 4 ∧
      t.configs.get? "segment.ms" = some "7" ∧
      (∃ current, t.configs.get? "retention.ms" = some current ∧ Text.trim current = "1000") ∧
      Session.provision s₁ = (some (.value (.reconciled .unchanged (.unchanged 4))), s₂) := by
  have hserves : outdated.scheduler.state.Serves := ⟨fun _ => rfl, rfl⟩
  obtain ⟨outcome, t, s₁, s₂, hfirst, ht, hpartitions, -, hretention, -, hkeys, -, -, hsecond,
      -⟩ :=
    provision_converges rfl hserves
  have hfour : t.partitions = 4 := hpartitions
  refine ⟨outcome, t, s₁, s₂, hfirst, ht, hfour, ?_, hretention, ?_⟩
  · exact hkeys "segment.ms" (by decide) (by decide)
  · rw [hsecond, hfour]

end Session

end Rehearsal

end MetricFeed
