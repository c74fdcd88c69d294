/-
MetricFeed/Proofs/Provisioning/Protocol.lean

Which requests a provisioning makes of an administration that may answer with anything at any time,
or never, and what its outcome says about the answers.

The request that creates the topic comes first.  If it is answered that the topic exists, the
requests for the configuration follow (`ConfigPart`), and then, whatever came of them, those for the
partitions (`PartitionPart`).  Together they make up a `Protocol`, whose rules also say which
outcome which answers lead to.  The talks of a provisioning are exactly these
(`talk_iff_protocol`): a talk in progress stands where its requests so far lead (`Follows`), and
each settled request takes it on (`Follows.settle`).

Main result (`run_protocol`): what this says of a provisioning in time.
-/
import MetricFeed.Proofs.Provisioning.Exchange
import MetricFeed.Proofs.Reporting.Dialogue

namespace MetricFeed.Provisioning

open Dialogue (Talk)

variable {spec : TopicSpec} {timeout : Duration} {es : List Settled}

/-! ### The protocol -/

/-- The requests that bring the configuration in line, and the outcome.  Changes are made only to
a configuration that is known to have a drift, and they are that drift. -/
inductive ConfigPart (spec : TopicSpec) : List Settled → ConfigOutcome → Prop
  | unknown (answer? : Option (Except AdminFault TextMap)) :
    (∀ live, answer? ≠ some (.ok live)) →
    ConfigPart spec [⟨.describeConfig spec.name, answer?⟩] .failed
  | inLine (live : TextMap) : spec.drift live = [] →
    ConfigPart spec [⟨.describeConfig spec.name, some (.ok live)⟩] .unchanged
  | notAltered (live : TextMap) (answer? : Option (Except AdminFault Unit)) :
    spec.drift live ≠ [] → answer? ≠ some (.ok ()) →
    ConfigPart spec
      [⟨.describeConfig spec.name, some (.ok live)⟩,
        ⟨.alterConfig spec.name (spec.drift live), answer?⟩] .failed
  | altered (live : TextMap) : spec.drift live ≠ [] →
    ConfigPart spec
      [⟨.describeConfig spec.name, some (.ok live)⟩,
        ⟨.alterConfig spec.name (spec.drift live), some (.ok ())⟩]
      (.altered ((spec.drift live).map (·.key)))

/-- The requests that bring the partition count in line, and the outcome.  Only a count that is
known to be too small is raised, to the wanted one. -/
inductive PartitionPart (spec : TopicSpec) : List Settled → PartitionOutcome → Prop
  | unknown (answer? : Option (Except AdminFault TopicLayout)) :
    (∀ layout, answer? ≠ some (.ok layout)) →
    PartitionPart spec [⟨.describeTopic spec.name, answer?⟩] .failed
  | enough (layout : TopicLayout) : spec.partitions ≤ layout.partitions →
    PartitionPart spec [⟨.describeTopic spec.name, some (.ok layout)⟩]
      (.unchanged layout.partitions)
  | notIncreased (layout : TopicLayout) (answer? : Option (Except AdminFault Unit)) :
    layout.partitions < spec.partitions → answer? ≠ some (.ok ()) →
    PartitionPart spec
      [⟨.describeTopic spec.name, some (.ok layout)⟩,
        ⟨.increasePartitions spec.name spec.partitions, answer?⟩] .failed
  | increased (layout : TopicLayout) : layout.partitions < spec.partitions →
    PartitionPart spec
      [⟨.describeTopic spec.name, some (.ok layout)⟩,
        ⟨.increasePartitions spec.name spec.partitions, some (.ok ())⟩]
      (.increased layout.partitions spec.partitions)

/-- The request that creates the topic, answered in time that the topic exists. -/
def found (spec : TopicSpec) (topic : String) : Settled :=
  ⟨.createTopic spec, some (.error (.topicExists topic))⟩

/-- The requests of a provisioning, and its outcome. -/
inductive Protocol (spec : TopicSpec) : List Settled → ProvisionOutcome → Prop
  | created : Protocol spec [⟨.createTopic spec, some (.ok ())⟩] .created
  | abandoned (answer? : Option (Except AdminFault Unit)) : answer? ≠ some (.ok ()) →
    (∀ topic, answer? ≠ some (.error (.topicExists topic))) →
    Protocol spec [⟨.createTopic spec, answer?⟩] .abandoned
  | reconciled (topic : String) {cs ps : List Settled} {config : ConfigOutcome}
    {partitions : PartitionOutcome} :
    ConfigPart spec cs config → PartitionPart spec ps partitions →
    Protocol spec (found spec topic :: cs ++ ps) (.reconciled config partitions)

/-! ### Talks follow the protocol -/

/-- The requests so far lead to where the provisioning stands. -/
def Follows (spec : TopicSpec) (es : List Settled) : Step ⊕ ProvisionOutcome → Prop
  | .inl .creating => es = []
  | .inl (.config .describing) => ∃ topic, es = [found spec topic]
  | .inl (.config (.altering changes)) =>
    ∃ topic live, es = [found spec topic, ⟨.describeConfig spec.name, some (.ok live)⟩] ∧
      spec.drift live ≠ [] ∧ changes = spec.drift live
  | .inl (.partitions config .measuring) =>
    ∃ topic cs, es = found spec topic :: cs ∧ ConfigPart spec cs config
  | .inl (.partitions config (.growing before)) =>
    ∃ topic cs layout,
      es = found spec topic :: cs ++ [⟨.describeTopic spec.name, some (.ok layout)⟩] ∧
        ConfigPart spec cs config ∧ before = layout.partitions ∧ before < spec.partitions
  | .inr outcome => Protocol spec es outcome

/-- **Each settled request takes the provisioning on** as the protocol says. -/
theorem Follows.settle {step : Step} (h : Follows spec es (.inl step))
    (answer? : Option (Except AdminFault ((provision spec).request step).Answer)) :
    Follows spec (es ++ [⟨(provision spec).request step, answer?⟩])
      ((provision spec).next step (answer?.getD (.error (.timeout timeout)))).2 := by
  rcases step with _ | (_ | changes) | ⟨config, _ | before⟩
  · -- creating
    obtain rfl : es = [] := h
    rcases answer? with _ | (fault | ⟨⟩)
    · exact .abandoned none (by rintro ⟨⟩) (by rintro _ ⟨⟩)
    · cases fault with
      | topicExists topic => exact ⟨topic, rfl⟩
      | _ => exact .abandoned _ (by rintro ⟨⟩) (by rintro _ ⟨⟩)
    · exact .created
  · -- describing the configuration
    obtain ⟨topic, rfl⟩ := h
    rcases answer? with _ | (fault | live)
    · exact ⟨topic, _, rfl, .unknown none (by rintro _ ⟨⟩)⟩
    · exact ⟨topic, _, rfl, .unknown (some (.error fault)) (by rintro _ ⟨⟩)⟩
    · simp only [provision, Step.next, ConfigStep.next, Option.getD_some]
      rcases hd : spec.drift live with _ | ⟨change, rest⟩
      · exact ⟨topic, _, rfl, .inLine live hd⟩
      · have hne : spec.drift live ≠ [] := by simp [hd]
        exact ⟨topic, live, rfl, hne, hd.symm⟩
  · -- altering the configuration
    obtain ⟨topic, live, rfl, hne, rfl⟩ := h
    rcases answer? with _ | (fault | ⟨⟩)
    · exact ⟨topic, _, rfl, .notAltered live none hne (by rintro ⟨⟩)⟩
    · exact ⟨topic, _, rfl, .notAltered live (some (.error fault)) hne (by rintro ⟨⟩)⟩
    · exact ⟨topic, _, rfl, .altered live hne⟩
  · -- measuring the partitions
    obtain ⟨topic, cs, rfl, hcs⟩ := h
    rcases answer? with _ | (fault | layout)
    · exact .reconciled topic hcs (.unknown none (by rintro _ ⟨⟩))
    · exact .reconciled topic hcs (.unknown (some (.error fault)) (by rintro _ ⟨⟩))
    · simp only [provision, Step.next, PartitionStep.next, Option.getD_some]
      by_cases hle : spec.partitions ≤ layout.partitions
      · simp only [hle, if_true]
        exact .reconciled topic hcs (.enough layout hle)
      · simp only [hle, if_false]
        exact ⟨topic, cs, layout, rfl, hcs, rfl, Nat.lt_of_not_le hle⟩
  · -- growing
    obtain ⟨topic, cs, layout, rfl, hcs, rfl, hlt⟩ := h
    rw [List.append_assoc]
    rcases answer? with _ | (fault | ⟨⟩)
    · exact .reconciled topic hcs (.notIncreased layout none hlt (by rintro ⟨⟩))
    · exact .reconciled topic hcs (.notIncreased layout (some (.error fault)) hlt (by rintro ⟨⟩))
    · exact .reconciled topic hcs (.increased layout hlt)

theorem talk_follows {x : Step ⊕ ProvisionOutcome}
    (h : Talk (provision spec) timeout .creating es x) : Follows spec es x := by
  induction h with
  | start => rfl
  | settle _ answer? ih => exact ih.settle answer?

/-! ### The protocol can be talked -/

theorem talk_drifted {live : TextMap} (hne : spec.drift live ≠ [])
    (h : Talk (provision spec) timeout .creating es (.inl (.config .describing))) :
    Talk (provision spec) timeout .creating
      (es ++ [⟨.describeConfig spec.name, some (.ok live)⟩])
      (.inl (.config (.altering (spec.drift live)))) := by
  have hnext := h.settle (some (.ok live))
  simp only [provision, Step.next, ConfigStep.next, Option.getD_some] at hnext
  rcases hd : spec.drift live with _ | ⟨change, rest⟩
  · exact absurd hd hne
  · simp only [hd] at hnext
    exact hnext

theorem talk_few {config : ConfigOutcome} {layout : TopicLayout}
    (hlt : layout.partitions < spec.partitions)
    (h : Talk (provision spec) timeout .creating es (.inl (.partitions config .measuring))) :
    Talk (provision spec) timeout .creating
      (es ++ [⟨.describeTopic spec.name, some (.ok layout)⟩])
      (.inl (.partitions config (.growing layout.partitions))) := by
  have hnext := h.settle (some (.ok layout))
  simp only [provision, Step.next, PartitionStep.next, Option.getD_some,
    if_neg (Nat.not_le.mpr hlt)] at hnext
  exact hnext

/-- The requests for the configuration lead on to the partitions, whatever their outcome. -/
theorem talk_config {cs : List Settled} {config : ConfigOutcome} (hcs : ConfigPart spec cs config)
    (h : Talk (provision spec) timeout .creating es (.inl (.config .describing))) :
    Talk (provision spec) timeout .creating (es ++ cs) (.inl (.partitions config .measuring)) := by
  cases hcs with
  | unknown answer? hnot =>
    have hnext := h.settle answer?
    rcases answer? with _ | (fault | live)
    · exact hnext
    · exact hnext
    · exact absurd rfl (hnot live)
  | inLine live hnil =>
    have hnext := h.settle (some (.ok live))
    simp only [provision, Step.next, ConfigStep.next, Option.getD_some, hnil] at hnext
    exact hnext
  | notAltered live answer? hne hnot =>
    have hnext := (talk_drifted hne h).settle answer?
    rw [List.append_assoc] at hnext
    rcases answer? with _ | (fault | ⟨⟩)
    · exact hnext
    · exact hnext
    · exact absurd rfl hnot
  | altered live hne =>
    have hnext := (talk_drifted hne h).settle (some (.ok ()))
    rw [List.append_assoc] at hnext
    exact hnext

/-- The requests for the partitions lead to the end, with the outcome for the configuration that
there has been. -/
theorem talk_partitions {ps : List Settled} {config : ConfigOutcome} {partitions : PartitionOutcome}
    (hps : PartitionPart spec ps partitions)
    (h : Talk (provision spec) timeout .creating es (.inl (.partitions config .measuring))) :
    Talk (provision spec) timeout .creating (es ++ ps) (.inr (.reconciled config partitions)) := by
  cases hps with
  | unknown answer? hnot =>
    have hnext := h.settle answer?
    rcases answer? with _ | (fault | layout)
    · exact hnext
    · exact hnext
    · exact absurd rfl (hnot layout)
  | enough layout hle =>
    have hnext := h.settle (some (.ok layout))
    simp only [provision, Step.next, PartitionStep.next, Option.getD_some, hle, if_true] at hnext
    exact hnext
  | notIncreased layout answer? hlt hnot =>
    have hnext := (talk_few hlt h).settle answer?
    rw [List.append_assoc] at hnext
    rcases answer? with _ | (fault | ⟨⟩)
    · exact hnext
    · exact hnext
    · exact absurd rfl hnot
  | increased layout hlt =>
    have hnext := (talk_few hlt h).settle (some (.ok ()))
    rw [List.append_assoc] at hnext
    exact hnext

theorem talk_found (spec : TopicSpec) (timeout : Duration) (topic : String) :
    Talk (provision spec) timeout .creating [found spec topic] (.inl (.config .describing)) :=
  Talk.start.settle (some (.error (.topicExists topic)))

/-- A provisioning that has found the topic goes through both parts. -/
theorem talk_reconciled (timeout : Duration) (topic : String) {cs ps : List Settled}
    {config : ConfigOutcome} {partitions : PartitionOutcome} (hcs : ConfigPart spec cs config)
    (hps : PartitionPart spec ps partitions) :
    Talk (provision spec) timeout .creating (found spec topic :: cs ++ ps)
      (.inr (.reconciled config partitions)) :=
  talk_partitions hps (talk_config hcs (talk_found spec timeout topic))

/-- **The talks that come to an end are those of the protocol.** -/
theorem talk_iff_protocol {outcome : ProvisionOutcome} :
    Talk (provision spec) timeout .creating es (.inr outcome) ↔ Protocol spec es outcome := by
  constructor
  · exact talk_follows
  · intro h
    have hstart : Talk (provision spec) timeout .creating [] (.inl .creating) := .start
    cases h with
    | created => exact hstart.settle (some (.ok ()))
    | abandoned answer? hok hexists =>
      have hnext := hstart.settle answer?
      rcases answer? with _ | (fault | ⟨⟩)
      · exact hnext
      · cases fault with
        | topicExists topic => exact absurd rfl (hexists topic)
        | _ => exact hnext
      · exact absurd rfl hok
    | reconciled topic hcs hps => exact talk_reconciled timeout topic hcs hps

/-! ### Every talk comes to an end -/

/-- No more than five requests are made. -/
theorem length_add_rank_le {step : Step}
    (h : Talk (provision spec) timeout .creating es (.inl step)) : es.length + step.rank ≤ 5 := by
  generalize hx : (.inl step : Step ⊕ ProvisionOutcome) = x at h
  induction h generalizing step with
  | start =>
    obtain rfl := Sum.inl.inj hx
    exact Nat.le_refl _
  | @settle es before _ answer? ih =>
    have hlt := rank_next hx.symm
    have hbefore := ih rfl
    rw [List.length_append, List.length_singleton]
    omega

/-- However the requests that follow are settled, there is an outcome. -/
theorem talk_ends {x : Step ⊕ ProvisionOutcome}
    (h : Talk (provision spec) timeout .creating es x) :
    ∃ rest outcome, Talk (provision spec) timeout .creating (es ++ rest) (.inr outcome) := by
  rcases x with step | outcome
  · induction hr : step.rank using Nat.strongRecOn generalizing es step with
    | ind r ih =>
      subst hr
      -- nothing is answered any more
      have hnext := h.settle none
      rcases hx : ((provision spec).next step (.error (.timeout timeout))).2 with next | outcome
      · have hnext' : Talk (provision spec) timeout .creating _ (.inl next) := hx ▸ hnext
        obtain ⟨rest, outcome, hend⟩ := ih next.rank (rank_next hx) next hnext' rfl
        rw [List.append_assoc] at hend
        exact ⟨_, outcome, hend⟩
      · exact ⟨_, outcome, hx ▸ hnext⟩
  · refine ⟨[], outcome, ?_⟩
    rw [List.append_nil]
    exact h

/-! ### In time -/

section Time

variable {S : Type} {admin : Administration S} {note : Notice → S → S} {now : Nat}
variable {asked : List AdminRequest} {calls : List (SettledCall S)} {s : S}
variable {x : (provision spec).Progress S ⊕ Reply ProvisionOutcome}

/-- The requests settled so far, and a further one, are the beginning of a protocol. -/
def Begins (spec : TopicSpec) (es : List Settled) (request : AdminRequest) : Prop :=
  ∀ answer? : Option (Except AdminFault request.Answer), ∃ rest outcome,
    Protocol spec (es ++ ⟨request, answer?⟩ :: rest) outcome

theorem talk_begins {step : Step} (h : Talk (provision spec) timeout .creating es (.inl step)) :
    Begins spec es ((provision spec).request step) := by
  intro answer?
  obtain ⟨rest, outcome, hend⟩ := talk_ends (h.settle answer?)
  rw [List.append_assoc] at hend
  exact ⟨rest, outcome, talk_follows hend⟩

/-- **The request protocol.**  Whatever the administration answers and whenever it does, at every
moment of a provisioning:

* each settled request was one call of the administration, and was given up exactly if the answer
  was not in time;
* while it is in progress, the requests made are those settled and the one that is waited for, they
  begin a protocol, there are at most five, and there is an instant at which it goes on;
* a panic of the administration ends it in the middle of a protocol;
* when it has come to an outcome, the requests made are those settled, and they and the outcome
  follow the protocol;
* and then the part for the partitions owes nothing to the part for the configuration: if that had
  gone any other way, given the same answers there would have been the same requests for the
  partitions, and the same outcome for them. -/
theorem run_protocol
    (h : (provision spec).Run admin note timeout .creating now asked calls x s) :
    (∀ e ∈ calls, e.Genuine admin timeout) ∧
    (∀ p, x = .inl p →
      asked = calls.map (·.request) ++ p.outstanding ∧
      Begins spec (calls.map (·.toSettled)) ((provision spec).request p.step) ∧
      calls.length + 1 ≤ 5 ∧ (p.isDue now = true ∨ ∃ wake, p.wake? = some wake)) ∧
    (∀ message, x = .inr (.panicked message) → ∃ request,
      asked = calls.map (·.request) ++ [request] ∧
      Begins spec (calls.map (·.toSettled)) request) ∧
    (∀ outcome, x = .inr (.value outcome) →
      asked = calls.map (·.request) ∧ Protocol spec (calls.map (·.toSettled)) outcome) ∧
    ∀ config partitions, x = .inr (.value (.reconciled config partitions)) →
      ∃ topic cs ps, calls.map (·.toSettled) = found spec topic :: cs ++ ps ∧
        ConfigPart spec cs config ∧ PartitionPart spec ps partitions ∧
        ∀ cs' config', ConfigPart spec cs' config' → ∀ y,
          Talk (provision spec) timeout .creating (found spec topic :: cs' ++ ps) y ↔
            y = .inr (.reconciled config' partitions) := by
  obtain ⟨hgenuine, hstands⟩ := h.sound
  refine ⟨hgenuine, ?_, ?_, ?_, ?_⟩
  · rintro p rfl
    obtain ⟨htalk, hwaits, hasked⟩ := hstands
    have hlength := length_add_rank_le htalk
    have hpos := rank_pos p.step
    rw [List.length_map] at hlength
    exact ⟨hasked, talk_begins htalk, by omega, hwaits.wakes⟩
  · rintro message rfl
    obtain ⟨step, htalk, hasked⟩ := hstands
    exact ⟨_, hasked, talk_begins htalk⟩
  · rintro outcome rfl
    obtain ⟨htalk, hasked⟩ := hstands
    exact ⟨hasked, talk_iff_protocol.mp htalk⟩
  · rintro config partitions rfl
    obtain ⟨htalk, -⟩ := hstands
    have hprotocol := talk_iff_protocol.mp htalk
    generalize calls.map (·.toSettled) = es at hprotocol
    cases hprotocol with
    | @reconciled topic cs ps _ _ hcs hps =>
      refine ⟨topic, cs, ps, rfl, hcs, hps, fun cs' config' hcs' y => ?_⟩
      have htalk' := talk_reconciled timeout topic hcs' hps
      constructor
      · exact fun hy => hy.unique htalk'
      · rintro rfl
        exact htalk'

end Time

/-! ### A configuration that cannot be described -/

/-- An administration that knows of the topic and its two partitions, and never answers when it is
asked for the configuration. -/
def stalled : Administration Unit
  | .createTopic spec, s => (.immediate fun s => (.value (.error (.topicExists spec.name)), s), s)
  | .describeConfig _, s => (.never fun s => (.value (.ok (TextMap.ofList [])), s), s)
  | .describeTopic topic, s => (.immediate fun s => (.value (.ok ⟨topic, 2⟩), s), s)
  | .alterConfig _ _, s => (.immediate fun s => (.value (.ok ()), s), s)
  | .increasePartitions _ _, s => (.immediate fun s => (.value (.ok ()), s), s)
  | .close _, s => (.immediate fun s => (.value (.ok ()), s), s)

theorem run_protocol_stalled :
    ∃ (spec : TopicSpec) (calls : List (SettledCall Unit)),
      Protocol spec (calls.map (·.toSettled)) (.reconciled .failed (.increased 2 4)) ∧
      calls.map (·.request) =
        [.createTopic spec, .describeConfig spec.name, .describeTopic spec.name,
          .increasePartitions spec.name 4] := by
  let spec : TopicSpec :=
    { name := "metrics", partitions := 4, replication := 1, retention := .ofSeconds 1
      cleanupPolicy := .delete, partitions_pos := by decide, replication_pos := by decide }
  have hasking : (provision spec).Run stalled (fun _ s => s) (.ofMillis 10) .creating 0 _ _ _ () :=
    (((Dialogue.Run.start 0 ()).advance rfl).advance rfl).advance rfl
  -- time runs to the time limit
  have hlimit : ∀ wake, some 10000000 = some wake → 10000000 ≤ jumpTo 0 wake := by
    rintro wake hw
    obtain rfl := Option.some.inj hw
    decide
  have hwaiting := hasking.wait rfl (Nat.zero_le _) hlimit
  have hend := ((((hwaiting.advance rfl).advance rfl).advance rfl).advance rfl).advance rfl
  obtain ⟨-, -, -, hdone, -⟩ := run_protocol hend
  exact ⟨spec, _, (hdone _ rfl).2, rfl⟩

end MetricFeed.Provisioning
