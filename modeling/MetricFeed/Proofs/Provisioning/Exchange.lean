/-
MetricFeed/Proofs/Provisioning/Exchange.lean

Dialogues with a broker in memory, which answers at once.  An exchange is a request together with
its answer (`Dialogue.exchange`): nothing comes between the two, but others may act between two
exchanges.  In a world that serves administrative requests (`Rehearsal.World.Serves`), a dialogue
in progress goes on by exchanges with the broker of the world
(`Dialogue.Progress.advance_prompt`).

`Provisioning.Moves` says once what an exchange can do with a topic that exists; all that is
proved of agents in front of a broker is derived from it (`exchange_moves`).  Every exchange that is
not the last one lowers the rank of the step (`rank_exchange`), so a provisioning has at most five.
-/
import MetricFeed.Proofs.Broker.Ledger
import MetricFeed.Rehearsal.World

namespace MetricFeed

variable {σ α τ : Type}

/-! ### Exchanges -/

/-- A step's request and the broker's answer to it: where the dialogue goes on, and the broker. -/
def Dialogue.exchange (d : Dialogue σ α) (step : σ) (b : Broker τ) : (σ ⊕ α) × Broker τ :=
  ((d.next step (b.handle (d.request step)).1).2, (b.handle (d.request step)).2)

/-- A request leaves alone which faults are arranged. -/
theorem Broker.adminFault_handle (b : Broker τ) (r : AdminRequest) :
    (b.handle r).2.adminFault = b.adminFault := by
  unfold handle
  rcases b.faultFor r with _ | fault
  · rcases answer_cases r (b.journal r.call) with h | ⟨name, t, h, -⟩
    · exact congrArg (·.adminFault) h
    · exact congrArg (·.adminFault) h
  · rfl

/-! ### Exchanges in a world -/

namespace Rehearsal.World

/-- The administrative client answers at once, and nothing is arranged to make a request fail. -/
structure Serves (w : World) : Prop where
  unscripted : ∀ r : AdminRequest, w.adminScript (.ofRequest r) = {}
  noFault : w.broker.adminFault = none

@[simp] theorem noteAll_broker (notices : List Notice) (w : World) :
    (w.noteAll notices).broker = w.broker := by
  induction notices generalizing w with
  | nil => rfl
  | cons n rest ih => exact ih (w.note n)

@[simp] theorem noteAll_adminScripts (notices : List Notice) (w : World) :
    (w.noteAll notices).adminScripts = w.adminScripts := by
  induction notices generalizing w with
  | nil => rfl
  | cons n rest ih => exact ih (w.note n)

/-- An exchange leaves the world as obliging as it was. -/
theorem Serves.exchange {w w' : World} (h : w.Serves) {d : Dialogue σ α} {step : σ}
    (hb : w'.broker = (d.exchange step w.broker).2) (hs : w'.adminScripts = w.adminScripts) :
    w'.Serves := by
  refine ⟨fun r => ?_, ?_⟩
  · have hr := h.unscripted r
    unfold adminScript at hr ⊢
    rw [hs]
    exact hr
  · rw [hb]
    exact (Broker.adminFault_handle _ _).trans h.noFault

end Rehearsal.World

namespace Dialogue

open Rehearsal (World Script)

/-- The call of a step's request when nothing is scripted for it. -/
def promptCall (d : Dialogue σ α) (step : σ) (timeout : Duration) (made : Nat) :
    Call World (Except AdminFault (d.request step).Answer) :=
  (({} : Script AdminFault).flight (World.reachAdmin (d.request step))).await made (some timeout)

theorem isAnswered_promptCall {d : Dialogue σ α} {step : σ} {timeout : Duration}
    {made now : Nat} (hle : made ≤ now) : (d.promptCall step timeout made).isAnswered now = true := by
  simp [promptCall, Script.flight, Flight.await, Call.isAnswered, timerAt, hle]

namespace Progress

variable {d : Dialogue σ α}

/-- A dialogue that has not made the call of its step, or the end of a dialogue. -/
def onward {S : Type} : σ ⊕ α → d.Progress S ⊕ Reply α
  | .inl step => .inl { step }
  | .inr a => .inr (.value a)

/-- Making a call changes nothing. -/
theorem advance_calling {step : σ} {w : World} (h : w.Serves) (timeout : Duration) (now : Nat) :
    ({ step } : d.Progress World).advance World.administration World.note timeout now w =
      (.inl { step, call := some (d.promptCall step timeout now) }, w) := by
  have hscript := h.unscripted (d.request step)
  simp only [advance, World.administration, hscript]
  rfl

/-- **A call is answered by an exchange** with the broker as it is by then, whatever the time limit
is. -/
theorem advance_prompt (d : Dialogue σ α) (step : σ) (w : World) {made now : Nat}
    (hle : made ≤ now) (timeout : Duration) :
    ∃ w', ({ step, call := some (d.promptCall step timeout made) } : d.Progress World).advance
          World.administration World.note timeout now w =
        (onward (d.exchange step w.broker).1, w') ∧
      w'.broker = (d.exchange step w.broker).2 ∧ w'.adminScripts = w.adminScripts := by
  have hanswered : (d.promptCall step timeout made).isAnswered now = true :=
    isAnswered_promptCall hle
  have hfinish : (d.promptCall step timeout made).finish w =
      (.value (World.reachAdmin (d.request step) w).1,
        (World.reachAdmin (d.request step) w).2) := by
    simp [promptCall, Script.flight, Flight.await]
  have hbroker : (World.reachAdmin (d.request step) w).2.broker =
      (w.broker.handle (d.request step)).2 := World.noteAll_broker _ _
  have hscripts : (World.reachAdmin (d.request step) w).2.adminScripts = w.adminScripts :=
    World.noteAll_adminScripts _ _
  have hanswer : (World.reachAdmin (d.request step) w).1 = (w.broker.handle (d.request step)).1 :=
    rfl
  -- what is said about the answer changes nothing but the log
  refine ⟨(World.reachAdmin (d.request step) w).2.noteAll
      (d.next step (w.broker.handle (d.request step)).1).1, ?_, ?_, ?_⟩
  · rcases hn : d.next step (w.broker.handle (d.request step)).1 with ⟨notices, next | a⟩ <;>
      simp only [advance, hanswered, if_true, hfinish, answered, exchange, hanswer, hn, onward] <;>
      rfl
  · rw [World.noteAll_broker]
    exact hbroker
  · rw [World.noteAll_adminScripts]
    exact hscripts

end Progress

end Dialogue

/-! ### Changes of one topic -/

namespace Broker

/-- The broker `b'` is `b` with the topic `name` as `t` and further entries in the journal. -/
structure Became (b : Broker τ) (name : String) (t : StoredTopic) (calls : List AdminCall)
    (b' : Broker τ) : Prop where
  topic : b'.topic? name = some t
  others : ∀ other, other ≠ name → b'.topic? other = b.topic? other
  calls : b'.adminCalls.toList = b.adminCalls.toList ++ calls
  fault : b'.adminFault = b.adminFault

theorem Became.trans {b₁ b₂ b₃ : Broker τ} {name : String} {t t' : StoredTopic}
    {calls calls' : List AdminCall} (h : b₁.Became name t calls b₂)
    (h' : b₂.Became name t' calls' b₃) : b₁.Became name t' (calls ++ calls') b₃ := by
  refine ⟨h'.topic, fun other hne => ?_, ?_, h'.fault.trans h.fault⟩
  · exact (h'.others other hne).trans (h.others other hne)
  · rw [h'.calls, h.calls, List.append_assoc]

/-- A request that is only entered in the journal. -/
theorem became_journal {b : Broker τ} {name : String} {t : StoredTopic}
    (ht : b.topic? name = some t) (call : AdminCall) : b.Became name t [call] (b.journal call) :=
  ⟨ht, fun _ _ => rfl, Array.toList_push, rfl⟩

/-- A request that puts a topic in place. -/
theorem became_insert (b : Broker τ) (name : String) (t : StoredTopic) (call : AdminCall) :
    b.Became name t [call]
      { b.journal call with topics := (b.journal call).topics.insert name t } := by
  refine ⟨?_, fun other hne => ?_, Array.toList_push, rfl⟩
  · rw [topic?_insert]
    exact if_pos rfl
  · rw [topic?_insert]
    exact if_neg hne

theorem handle_of_noFault {b : Broker τ} (h : b.adminFault = none) (r : AdminRequest) :
    b.handle r = answer r (b.journal r.call) := by
  have hnone : b.faultFor r = none := by
    cases r with
    | close timeout => rfl
    | _ => exact h
  unfold handle
  rw [hnone]

end Broker

/-! ### What an exchange of a provisioning can do -/

namespace Provisioning

/-- What an exchange can do with a topic that exists: from the topic and the step before to what
comes next and the topic after. -/
inductive Moves (spec : TopicSpec) (t : StoredTopic) :
    Step → Step ⊕ ProvisionOutcome → StoredTopic → Prop
  | present : Moves spec t .creating (.inl reconciling) t
  | inLine : spec.drift t.configs = [] →
    Moves spec t (.config .describing) (.inl (.partitions .unchanged .measuring)) t
  | drifted : spec.drift t.configs ≠ [] →
    Moves spec t (.config .describing) (.inl (.config (.altering (spec.drift t.configs)))) t
  | altered (changes : List ConfigChange) :
    Moves spec t (.config (.altering changes))
      (.inl (.partitions (.altered (changes.map (·.key))) .measuring))
      { t with configs := applyChanges t.configs changes }
  | enough (config : ConfigOutcome) : spec.partitions ≤ t.partitions →
    Moves spec t (.partitions config .measuring)
      (.inr (.reconciled config (.unchanged t.partitions))) t
  | few (config : ConfigOutcome) : t.partitions < spec.partitions →
    Moves spec t (.partitions config .measuring)
      (.inl (.partitions config (.growing t.partitions))) t
  | grown (config : ConfigOutcome) (before : Nat) : t.partitions ≤ spec.partitions →
    Moves spec t (.partitions config (.growing before))
      (.inr (.reconciled config (.increased before spec.partitions)))
      { t with partitions := spec.partitions }
  /-- Others have added more partitions in the meantime. -/
  | outgrown (config : ConfigOutcome) (before : Nat) : spec.partitions < t.partitions →
    Moves spec t (.partitions config (.growing before)) (.inr (.reconciled config .failed)) t

section Exchanges

variable {spec : TopicSpec} {b : Broker τ} {t : StoredTopic}

/-- **What an exchange can do** when the topic exists and no fault is arranged. -/
theorem exchange_moves (hb : b.adminFault = none) (ht : b.topic? spec.name = some t)
    (step : Step) :
    ∃ t', Moves spec t step ((provision spec).exchange step b).1 t' ∧
      b.Became spec.name t' [((provision spec).request step).call]
        ((provision spec).exchange step b).2 := by
  have htj : ∀ call, (b.journal call).topic? spec.name = some t := fun _ => ht
  unfold Dialogue.exchange
  rw [Broker.handle_of_noFault hb]
  rcases step with _ | (_ | changes) | ⟨config, _ | before⟩
  · -- creating: the topic is there already
    have ha : Broker.answer (.createTopic spec) (b.journal (.createTopic spec.name)) =
        (.error (.topicExists spec.name), b.journal (.createTopic spec.name)) := by
      simp only [Broker.answer, Broker.createTopic, htj]
    refine ⟨t, ?_⟩
    simp only [provision, Step.request, AdminRequest.call, ha, Step.next]
    exact ⟨.present, Broker.became_journal ht _⟩
  · -- describing the configuration
    have ha : Broker.answer (.describeConfig spec.name) (b.journal (.describeConfig spec.name)) =
        (.ok t.configs, b.journal (.describeConfig spec.name)) := by
      simp only [Broker.answer, Broker.describeConfig, htj]
    refine ⟨t, ?_⟩
    simp only [provision, Step.request, ConfigStep.request, AdminRequest.call, ha, Step.next,
      ConfigStep.next]
    rcases hd : spec.drift t.configs with _ | ⟨change, rest⟩
    · exact ⟨.inLine hd, Broker.became_journal ht _⟩
    · refine ⟨?_, Broker.became_journal ht _⟩
      have hne : spec.drift t.configs ≠ [] := by simp [hd]
      simpa [hd] using Moves.drifted hne
  · -- altering the configuration
    have ha : Broker.answer (.alterConfig spec.name changes)
          (b.journal (.alterConfig spec.name changes)) =
        (.ok (), { b.journal (.alterConfig spec.name changes) with
          topics := (b.journal (.alterConfig spec.name changes)).topics.insert spec.name
            { t with configs := applyChanges t.configs changes } }) := by
      simp only [Broker.answer, Broker.alterConfig, htj]
    refine ⟨{ t with configs := applyChanges t.configs changes }, ?_⟩
    simp only [provision, Step.request, ConfigStep.request, AdminRequest.call, ha, Step.next,
      ConfigStep.next]
    exact ⟨.altered changes, Broker.became_insert _ _ _ _⟩
  · -- measuring the partitions
    have ha : Broker.answer (.describeTopic spec.name) (b.journal (.describeTopic spec.name)) =
        (.ok ⟨spec.name, t.partitions⟩, b.journal (.describeTopic spec.name)) := by
      simp only [Broker.answer, Broker.describeTopic, htj]
    refine ⟨t, ?_⟩
    simp only [provision, Step.request, PartitionStep.request, AdminRequest.call, ha, Step.next,
      PartitionStep.next]
    by_cases hle : spec.partitions ≤ t.partitions
    · simp only [hle, if_true]
      exact ⟨.enough config hle, Broker.became_journal ht _⟩
    · simp only [hle, if_false]
      exact ⟨.few config (by omega), Broker.became_journal ht _⟩
  · -- growing: the count is stale if others have grown the topic further
    by_cases hlt : spec.partitions < t.partitions
    · have ha : ∃ fault, Broker.answer (.increasePartitions spec.name spec.partitions)
            (b.journal (.increasePartitions spec.name spec.partitions)) =
          (.error fault, b.journal (.increasePartitions spec.name spec.partitions)) := by
        simp only [Broker.answer, Broker.increasePartitions, htj, hlt, if_true]
        exact ⟨_, rfl⟩
      obtain ⟨fault, ha⟩ := ha
      refine ⟨t, ?_⟩
      simp only [provision, Step.request, PartitionStep.request, AdminRequest.call, ha, Step.next,
        PartitionStep.next]
      exact ⟨.outgrown config before hlt, Broker.became_journal ht _⟩
    · have ha : Broker.answer (.increasePartitions spec.name spec.partitions)
            (b.journal (.increasePartitions spec.name spec.partitions)) =
          (.ok (), { b.journal (.increasePartitions spec.name spec.partitions) with
            topics := (b.journal (.increasePartitions spec.name spec.partitions)).topics.insert
              spec.name { t with partitions := spec.partitions } }) := by
        simp only [Broker.answer, Broker.increasePartitions, htj, hlt, if_false]
      refine ⟨{ t with partitions := spec.partitions }, ?_⟩
      simp only [provision, Step.request, PartitionStep.request, AdminRequest.call, ha, Step.next,
        PartitionStep.next]
      exact ⟨.grown config before (by omega), Broker.became_insert _ _ _ _⟩

/-- The topic that is created when there is none. -/
def made (spec : TopicSpec) : StoredTopic :=
  { partitions := spec.partitions, replication := spec.replication, configs := spec.configs }

/-- Without the topic, the first exchange creates it and ends the provisioning. -/
theorem exchange_absent (hb : b.adminFault = none) (ht : b.topic? spec.name = none) :
    ((provision spec).exchange .creating b).1 = .inr .created ∧
      b.Became spec.name (made spec) [.createTopic spec.name]
        ((provision spec).exchange .creating b).2 := by
  have htj : (b.journal (.createTopic spec.name)).topic? spec.name = none := ht
  have ha : Broker.answer (.createTopic spec) (b.journal (.createTopic spec.name)) =
      (.ok (), { b.journal (.createTopic spec.name) with
        topics := (b.journal (.createTopic spec.name)).topics.insert spec.name (made spec) }) := by
    simp only [Broker.answer, Broker.createTopic, htj, made]
  unfold Dialogue.exchange
  rw [Broker.handle_of_noFault hb]
  simp only [provision, Step.request, AdminRequest.call, ha, Step.next, true_and]
  exact Broker.became_insert _ _ _ _

end Exchanges

/-! ### How many exchanges there are -/

/-- How many exchanges are left at a step, at most. -/
def Step.rank : Step → Nat
  | .creating => 5
  | .config .describing => 4
  | .config (.altering _) => 3
  | .partitions _ .measuring => 2
  | .partitions _ (.growing _) => 1

theorem rank_pos (step : Step) : 0 < step.rank := by
  rcases step with _ | (_ | _) | ⟨_, _ | _⟩ <;> exact Nat.succ_pos _

/-- Whatever a request is answered with, the next step has a lower rank. -/
theorem rank_next {spec : TopicSpec} {step next : Step}
    {answer : Except AdminFault ((provision spec).request step).Answer}
    (h : ((provision spec).next step answer).2 = .inl next) : next.rank < step.rank := by
  rcases step with _ | (_ | changes) | ⟨config, _ | before⟩
  · -- creating
    rcases answer with (_ | _ | _ | _ | _ | _) | _ <;> cases h
    decide
  · -- describing
    rcases answer with fault | live
    · cases h
      decide
    · simp only [provision, Step.next, ConfigStep.next] at h
      rcases hd : spec.drift live with _ | ⟨change, rest⟩ <;> simp only [hd] at h <;> cases h
      · decide
      · exact Nat.lt_succ_self 3
  · -- altering
    rcases answer with fault | _ <;> cases h
    · exact Nat.lt_succ_self 2
    · exact Nat.lt_succ_self 2
  · -- measuring
    rcases answer with fault | layout
    · cases h
    · simp only [provision, Step.next, PartitionStep.next] at h
      by_cases hle : spec.partitions ≤ layout.partitions <;> simp only [hle, if_true, if_false] at h
        <;> cases h
      exact Nat.lt_succ_self 1
  · -- growing: no step follows
    rcases answer with fault | _ <;> cases h

theorem rank_exchange {spec : TopicSpec} {step next : Step} {b b' : Broker τ}
    (h : (provision spec).exchange step b = (.inl next, b')) : next.rank < step.rank :=
  rank_next (congrArg Prod.fst h)

end Provisioning

end MetricFeed
