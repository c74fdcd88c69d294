/-
MetricFeed/Proofs/Broker/Requests.lean

Requests of all kinds to a broker: administrative ones, connections, records to send, flushes, the
producer's end, and failures that are arranged.

A request is refused for the reasons that `Broker.Refuses` lists, and for no others
(`perform_eq_error_iff`).  One that is refused leaves no trace but its entry in the journal
(`perform_of_error`).  Any other may add to the broker: topics stay, no count of partitions shrinks,
and each log goes on where it ended (`Broker.Grows`).  A request keeps this (`grows_perform`), hence
every run of requests does (`grows_run`).

Main result: `atomic_and_monotone`.
-/
import MetricFeed.Proofs.Broker.Ledger

namespace MetricFeed.Broker

variable {τ : Type}

/-! ### Requests -/

/-- What a broker may be asked to do. -/
inductive Request (τ : Type)
  | admin (r : AdminRequest)
  | connect (kind : ClientKind) (settings : ProducerSettings)
  | send (r : Record) (ticket : τ)
  | flush
  | closeProducer
  /-- The next deliveries are to fail. -/
  | failSends (count : Nat)
  /-- Administrative requests are to fail, or no longer. -/
  | failAdmin (fault : Option AdminFault)

/-- The entry of a request in the journal, which is kept of administrative requests. -/
def Request.call? : Request τ → Option AdminCall
  | .admin r => some r.call
  | _ => none

/-- What a request is refused with. -/
inductive Refusal
  | admin (fault : AdminFault)
  | connect (reason : String)
  | send (fault : PublishFault)

/-- Whether an answer is a refusal, and which. -/
def verdict {ε α : Type} (refusal : ε → Refusal) : Except ε α → Except Refusal Unit
  | .ok _ => .ok ()
  | .error e => .error (refusal e)

/-- Does what a request asks for, or refuses it. -/
def perform (b : Broker τ) : Request τ → Except Refusal Unit × Broker τ
  | .admin r => (verdict .admin (b.handle r).1, (b.handle r).2)
  | .connect kind settings =>
    (verdict .connect (b.connect kind settings).1, (b.connect kind settings).2)
  | .send r ticket => (verdict .send (b.send r ticket).1, (b.send r ticket).2)
  | .flush => (.ok (), b.flush.2)
  | .closeProducer => (.ok (), b.closeProducer.2)
  | .failSends count => (.ok (), { b with failNextSends := count })
  | .failAdmin fault => (.ok (), { b with adminFault := fault })

/-- The broker after several requests, whether refused or not. -/
def run (b : Broker τ) (qs : List (Request τ)) : Broker τ :=
  qs.foldl (fun b q => (b.perform q).2) b

@[simp] theorem run_nil (b : Broker τ) : b.run [] = b := rfl

@[simp] theorem run_cons (b : Broker τ) (q : Request τ) (qs : List (Request τ)) :
    b.run (q :: qs) = (b.perform q).2.run qs := rfl

theorem verdict_eq_error_iff {ε α : Type} {refusal : ε → Refusal} {answer : Except ε α}
    {why : Refusal} :
    verdict refusal answer = .error why ↔ ∃ e, answer = .error e ∧ refusal e = why := by
  cases answer <;> simp [verdict]

/-! ### Reasons to refuse -/

/-- The topic that a request is about and that has to exist. -/
def existing? : AdminRequest → Option String
  | .describeConfig topic | .alterConfig topic _ | .describeTopic topic
  | .increasePartitions topic _ => some topic
  | .createTopic _ | .close _ => none

/-- The topics rule out an administrative request. -/
inductive RuledOut (b : Broker τ) : AdminRequest → AdminFault → Prop
  | topicExists {spec : TopicSpec} {t : StoredTopic} : b.topic? spec.name = some t →
    RuledOut b (.createTopic spec) (.topicExists spec.name)
  | unknownTopic {r : AdminRequest} {topic : String} : existing? r = some topic →
    b.topic? topic = none → RuledOut b r (.unknownTopic topic)
  | shrinking {topic : String} {total : Nat} {t : StoredTopic} : b.topic? topic = some t →
    total < t.partitions →
    RuledOut b (.increasePartitions topic total) (.invalidRequest ("topic " ++ topic ++ " has " ++
      toString t.partitions ++ " partitions, cannot shrink to " ++ toString total))

/-- Every reason for which a request is refused. -/
inductive Refuses (b : Broker τ) : Request τ → Refusal → Prop
  | arranged {r : AdminRequest} {fault : AdminFault} : b.faultFor r = some fault →
    Refuses b (.admin r) (.admin fault)
  | ruledOut {r : AdminRequest} {fault : AdminFault} : b.faultFor r = none →
    RuledOut b r fault → Refuses b (.admin r) (.admin fault)
  | noServers {kind : ClientKind} {settings : ProducerSettings} :
    settings.get? ProducerSettings.bootstrapServers = none →
    Refuses b (.connect kind settings)
      (.connect (ProducerSettings.bootstrapServers ++ " is not set"))
  | noClientId {kind : ClientKind} {settings : ProducerSettings} {servers : String} :
    settings.get? ProducerSettings.bootstrapServers = some servers →
    settings.get? ProducerSettings.clientId = none →
    Refuses b (.connect kind settings) (.connect (ProducerSettings.clientId ++ " is not set"))
  | closed {r : Record} {ticket : τ} : b.producerClosed = true →
    Refuses b (.send r ticket) (.send .closed)

variable {b b' b₁ b₂ b₃ : Broker τ} {q : Request τ} {why : Refusal}

/-- An answer is an error exactly if the topics rule the request out. -/
theorem answer_eq_error_iff {r : AdminRequest} {fault : AdminFault} :
    (answer r b).1 = .error fault ↔ RuledOut b r fault := by
  constructor
  · intro h
    cases r with
    | createTopic spec =>
      replace h : (b.createTopic spec).1 = .error fault := h
      unfold createTopic at h
      rcases ht : b.topic? spec.name with _ | t <;> rw [ht] at h <;> cases h
      exact .topicExists ht
    | describeConfig topic =>
      replace h : b.describeConfig topic = .error fault := h
      unfold describeConfig at h
      rcases ht : b.topic? topic with _ | t <;> rw [ht] at h <;> cases h
      exact .unknownTopic rfl ht
    | alterConfig topic changes =>
      replace h : (b.alterConfig topic changes).1 = .error fault := h
      unfold alterConfig at h
      rcases ht : b.topic? topic with _ | t <;> rw [ht] at h <;> cases h
      exact .unknownTopic rfl ht
    | describeTopic topic =>
      replace h : b.describeTopic topic = .error fault := h
      unfold describeTopic at h
      rcases ht : b.topic? topic with _ | t <;> rw [ht] at h <;> cases h
      exact .unknownTopic rfl ht
    | increasePartitions topic total =>
      replace h : (b.increasePartitions topic total).1 = .error fault := h
      unfold increasePartitions at h
      rcases ht : b.topic? topic with _ | t <;> rw [ht] at h
      · cases h
        exact .unknownTopic rfl ht
      · dsimp only at h
        by_cases hlt : total < t.partitions
        · rw [if_pos hlt] at h
          cases h
          exact .shrinking ht hlt
        · rw [if_neg hlt] at h
          cases h
    | close timeout => cases h
  · intro h
    cases h with
    | topicExists ht =>
      show (b.createTopic _).1 = _
      simp [createTopic, ht]
    | unknownTopic hr ht =>
      cases r <;> cases hr <;>
        simp [answer, describeConfig, alterConfig, describeTopic, increasePartitions, ht]
    | shrinking ht hlt =>
      show (b.increasePartitions _ _).1 = _
      simp [increasePartitions, ht, hlt]

theorem handle_eq_error_iff {r : AdminRequest} {fault : AdminFault} :
    (b.handle r).1 = .error fault ↔
      b.faultFor r = some fault ∨ b.faultFor r = none ∧ RuledOut b r fault := by
  unfold handle
  rcases b.faultFor r with _ | arranged
  · -- the entry in the journal rules nothing out
    have hjournal : RuledOut (b.journal r.call) r fault ↔ RuledOut b r fault := by
      constructor <;> intro h <;> cases h with
      | topicExists ht => exact .topicExists ht
      | unknownTopic hr ht => exact .unknownTopic hr ht
      | shrinking ht hlt => exact .shrinking ht hlt
    simp [answer_eq_error_iff, hjournal]
  · simp

/-- **A request is refused for the listed reasons and no others.** -/
theorem perform_eq_error_iff : (b.perform q).1 = .error why ↔ Refuses b q why := by
  constructor
  · intro h
    cases q with
    | admin r =>
      obtain ⟨fault, hfault, rfl⟩ := verdict_eq_error_iff.mp h
      rcases handle_eq_error_iff.mp hfault with harranged | ⟨hnone, hout⟩
      · exact .arranged harranged
      · exact .ruledOut hnone hout
    | connect kind settings =>
      obtain ⟨reason, hreason, rfl⟩ := verdict_eq_error_iff.mp h
      unfold Broker.connect at hreason
      rcases hservers : settings.get? ProducerSettings.bootstrapServers with _ | servers
      · rw [hservers] at hreason
        cases hreason
        exact .noServers hservers
      · rcases hid : settings.get? ProducerSettings.clientId with _ | id
        · rw [hservers, hid] at hreason
          cases hreason
          exact .noClientId hservers hid
        · rw [hservers, hid] at hreason
          cases hreason
    | send r ticket =>
      obtain ⟨fault, hfault, rfl⟩ := verdict_eq_error_iff.mp h
      unfold Broker.send at hfault
      by_cases hclosed : b.producerClosed = true
      · rw [if_pos hclosed] at hfault
        cases hfault
        exact .closed hclosed
      · rw [if_neg hclosed] at hfault
        cases hfault
    | flush => cases h
    | closeProducer => cases h
    | failSends count => cases h
    | failAdmin fault => cases h
  · intro h
    cases h with
    | arranged h => exact verdict_eq_error_iff.mpr ⟨_, handle_eq_error_iff.mpr (.inl h), rfl⟩
    | ruledOut hnone hout =>
      exact verdict_eq_error_iff.mpr ⟨_, handle_eq_error_iff.mpr (.inr ⟨hnone, hout⟩), rfl⟩
    | noServers hservers => simp [perform, Broker.connect, hservers, verdict]
    | noClientId hservers hid => simp [perform, Broker.connect, hservers, hid, verdict]
    | closed hclosed => simp [perform, Broker.send, hclosed, verdict]

/-! ### Refused requests -/

/-- **A request that is refused leaves no trace but its entry in the journal.** -/
theorem perform_of_error (h : (b.perform q).1 = .error why) :
    (b.perform q).2 = { b with adminCalls := b.adminCalls ++ q.call?.toArray } := by
  have hquiet : { b with adminCalls := b.adminCalls ++ (none : Option AdminCall).toArray } = b := by
    simp
  cases q with
  | admin r =>
    obtain ⟨fault, hfault, -⟩ := verdict_eq_error_iff.mp h
    exact handle_error (Prod.ext hfault rfl)
  | connect kind settings =>
    refine Eq.trans ?_ hquiet.symm
    show (b.connect kind settings).2 = b
    cases perform_eq_error_iff.mp h with
    | noServers hservers => simp [Broker.connect, hservers]
    | noClientId hservers hid => simp [Broker.connect, hservers, hid]
  | send r ticket =>
    refine Eq.trans ?_ hquiet.symm
    show (b.send r ticket).2 = b
    cases perform_eq_error_iff.mp h with
    | closed hclosed =>
      unfold Broker.send
      rw [if_pos hclosed]
  | flush => cases h
  | closeProducer => cases h
  | failSends count => cases h
  | failAdmin fault => cases h

/-! ### What changes -/

/-- A connection is entered, or nothing changes. -/
theorem connect_cases (b : Broker τ) (kind : ClientKind) (settings : ProducerSettings) :
    (b.connect kind settings).2 = b ∨
      ∃ connection, (b.connect kind settings).2 =
        { b with connections := b.connections.push connection } := by
  unfold Broker.connect
  split
  · exact .inl rfl
  · exact .inl rfl
  · exact .inr ⟨_, rfl⟩

/-- A record waits, or nothing changes. -/
theorem send_cases (b : Broker τ) (r : Record) (ticket : τ) :
    (b.send r ticket).2 = b ∨
      (b.send r ticket).2 = { b with pending := b.pending.push (r, ticket) } := by
  unfold Broker.send
  split
  · exact .inl rfl
  · exact .inr rfl

/-- A record is put at the end of its topic's log, or the topics are left alone. -/
theorem deliver_cases (b : Broker τ) (r : Record) :
    (∃ count, (b.deliver r).2 = { b with failNextSends := count }) ∨
      ∃ t, b.topic? r.topic = some t ∧
        (b.deliver r).2 = { b with topics := b.topics.insert r.topic (t.append r).2 } := by
  unfold deliver
  by_cases hfail : 0 < b.failNextSends
  · rw [if_pos hfail]
    exact .inl ⟨_, rfl⟩
  · rw [if_neg hfail]
    rcases ht : b.topic? r.topic with _ | t
    · exact .inl ⟨b.failNextSends, rfl⟩
    · exact .inr ⟨t, rfl, rfl⟩

/-! ### The journal -/

theorem adminCalls_answer (r : AdminRequest) (b : Broker τ) :
    (answer r b).2.adminCalls = b.adminCalls := by
  rcases answer_cases r b with h | ⟨name, t, h, -⟩ <;> rw [h]

theorem adminCalls_handle (b : Broker τ) (r : AdminRequest) :
    (b.handle r).2.adminCalls = b.adminCalls.push r.call := by
  unfold handle
  rcases b.faultFor r with _ | fault
  · exact adminCalls_answer r _
  · rfl

theorem adminCalls_deliver (b : Broker τ) (r : Record) :
    (b.deliver r).2.adminCalls = b.adminCalls := by
  rcases deliver_cases b r with ⟨count, h⟩ | ⟨t, -, h⟩ <;> rw [h]

theorem adminCalls_deliverEach (rs : List (Record × τ)) (b : Broker τ) :
    (deliverEach rs b).2.adminCalls = b.adminCalls := by
  induction rs generalizing b with
  | nil => rfl
  | cons e rest ih =>
    show (deliverEach rest (b.deliver e.1).2).2.adminCalls = b.adminCalls
    rw [ih, adminCalls_deliver]

theorem adminCalls_flush (b : Broker τ) : b.flush.2.adminCalls = b.adminCalls :=
  adminCalls_deliverEach b.pending.toList { b with pending := #[] }

/-- Exactly the administrative requests are entered in the journal, whatever becomes of them. -/
theorem adminCalls_perform (b : Broker τ) (q : Request τ) :
    (b.perform q).2.adminCalls.toList = b.adminCalls.toList ++ q.call?.toList := by
  cases q with
  | admin r =>
    show (b.handle r).2.adminCalls.toList = _
    rw [adminCalls_handle]
    exact Array.toList_push
  | connect kind settings =>
    show (b.connect kind settings).2.adminCalls.toList = _
    rcases connect_cases b kind settings with h | ⟨connection, h⟩ <;> simp [h, Request.call?]
  | send r ticket =>
    show (b.send r ticket).2.adminCalls.toList = _
    rcases send_cases b r ticket with h | h <;> simp [h, Request.call?]
  | flush =>
    show b.flush.2.adminCalls.toList = _
    simp [adminCalls_flush, Request.call?]
  | closeProducer =>
    show b.flush.2.adminCalls.toList = _
    simp [adminCalls_flush, Request.call?]
  | failSends count => simp [perform, Request.call?]
  | failAdmin fault => simp [perform, Request.call?]

theorem adminCalls_run (b : Broker τ) (qs : List (Request τ)) :
    (b.run qs).adminCalls.toList = b.adminCalls.toList ++ qs.filterMap Request.call? := by
  induction qs generalizing b with
  | nil => simp
  | cons q qs ih =>
    rw [run_cons, ih, adminCalls_perform, List.append_assoc, List.filterMap_cons]
    cases q.call? <;> simp

/-! ### Brokers that grow -/

/-- Topics stay, with no fewer partitions and with logs that go on where they ended. -/
def Grows (b b' : Broker τ) : Prop :=
  ∀ name t, b.topic? name = some t →
    ∃ t', b'.topic? name = some t' ∧ t.partitions ≤ t'.partitions ∧
      t.records.toList <+: t'.records.toList

theorem Grows.trans (h : Grows b₁ b₂) (h' : Grows b₂ b₃) : Grows b₁ b₃ := by
  intro name t ht
  obtain ⟨t', ht', hle, hlog⟩ := h name t ht
  obtain ⟨t'', ht'', hle', hlog'⟩ := h' name t' ht'
  exact ⟨t'', ht'', Nat.le_trans hle hle', hlog.trans hlog'⟩

/-- A broker whose topics are reshaped grows: the logs are the same. -/
theorem Reshapes.grows (h : Reshapes b b') : Grows b b' := by
  intro name t ht
  obtain ⟨t', ht', hle⟩ := h.widens name t ht
  have hlog : t'.records = t.records := by
    rw [← records_of_topic? ht', ← records_of_topic? ht, h.records]
  exact ⟨t', ht', hle, hlog ▸ List.prefix_rfl⟩

theorem Grows.of_topics (h : b'.topics = b.topics) : Grows b b' :=
  (Reshapes.of_topics h).grows

theorem grows_deliver (b : Broker τ) (r : Record) : Grows b (b.deliver r).2 := by
  rcases deliver_cases b r with ⟨count, h⟩ | ⟨t, ht, h⟩ <;> rw [h]
  · exact .of_topics rfl
  · intro name t' ht'
    rw [topic?_insert]
    by_cases hname : name = r.topic
    · -- the topic that the record goes to
      rw [hname, ht] at ht'
      cases ht'
      refine ⟨(t.append r).2, if_pos hname, Nat.le_refl _, ?_⟩
      show t.records.toList <+: (t.records.push r).toList
      rw [Array.toList_push]
      exact List.prefix_append _ _
    · exact ⟨t', (if_neg hname).trans ht', Nat.le_refl _, List.prefix_rfl⟩

theorem grows_deliverEach (rs : List (Record × τ)) (b : Broker τ) :
    Grows b (deliverEach rs b).2 := by
  induction rs generalizing b with
  | nil => exact .of_topics rfl
  | cons e rest ih => exact (grows_deliver b e.1).trans (ih _)

theorem grows_flush (b : Broker τ) : Grows b b.flush.2 := by
  have htaken : Grows b { b with pending := #[] } := .of_topics rfl
  exact htaken.trans (grows_deliverEach _ _)

/-- Whatever a request does, the broker grows. -/
theorem grows_perform (b : Broker τ) (q : Request τ) : Grows b (b.perform q).2 := by
  cases q with
  | admin r => exact (reshapes_handle b r).grows
  | connect kind settings =>
    show Grows b (b.connect kind settings).2
    rcases connect_cases b kind settings with h | ⟨connection, h⟩ <;> rw [h] <;>
      exact .of_topics rfl
  | send r ticket =>
    show Grows b (b.send r ticket).2
    rcases send_cases b r ticket with h | h <;> rw [h] <;> exact .of_topics rfl
  | flush => exact grows_flush b
  | closeProducer => exact (grows_flush b).trans (.of_topics rfl)
  | failSends count => exact .of_topics rfl
  | failAdmin fault => exact .of_topics rfl

theorem grows_run (b : Broker τ) (qs : List (Request τ)) : Grows b (b.run qs) := by
  induction qs generalizing b with
  | nil => exact .of_topics rfl
  | cons q qs ih => exact (grows_perform b q).trans (ih _)

/-! ### The main result -/

/-- **Requests are atomic on error, and brokers grow.**

* A request is refused exactly for the reasons that `Refuses` lists.  Then topics, records, pending
  records, connections, arranged failures and the producer's state are as before, and the journal
  has the request's entry more, if the request is an administrative one.
* Over any requests, refused or not, a topic stays, its count of partitions does not decrease, its
  log only goes on at the end, and the journal gains the entries of all administrative requests in
  their order. -/
theorem atomic_and_monotone (b : Broker τ) :
    (∀ q why, ((b.perform q).1 = .error why ↔ Refuses b q why) ∧
      ((b.perform q).1 = .error why →
        (b.perform q).2 = { b with adminCalls := b.adminCalls ++ q.call?.toArray })) ∧
    ∀ qs : List (Request τ),
      (∀ name t, b.topic? name = some t →
        ∃ t', (b.run qs).topic? name = some t' ∧ t.partitions ≤ t'.partitions ∧
          t.records.toList <+: t'.records.toList) ∧
      (b.run qs).adminCalls.toList = b.adminCalls.toList ++ qs.filterMap Request.call? :=
  ⟨fun _ _ => ⟨perform_eq_error_iff, perform_of_error⟩,
    fun qs => ⟨grows_run b qs, adminCalls_run b qs⟩⟩

/-- A count of partitions that must not shrink, before and after the producer's end. -/
theorem atomic_and_monotone_of_shrinking :
    let b : Broker Unit := Broker.withTopic {} "metrics" 6 TextMap.empty
    let shrink : Request Unit := .admin (.increasePartitions "metrics" 3)
    (b.perform shrink).1 = .error (.admin (.invalidRequest
        ("topic " ++ "metrics" ++ " has " ++ toString 6 ++ " partitions, cannot shrink to " ++
          toString 3))) ∧
      (b.perform shrink).2 =
        { b with adminCalls := b.adminCalls ++ #[.increasePartitions "metrics" 3] } ∧
      ∃ t', (b.run [shrink, .closeProducer, shrink]).topic? "metrics" = some t' ∧
        6 ≤ t'.partitions := by
  intro b shrink
  obtain ⟨t, ht, hsix⟩ : ∃ t, b.topic? "metrics" = some t ∧ t.partitions = 6 := ⟨_, rfl, rfl⟩
  have hout : RuledOut b (.increasePartitions "metrics" 3) (.invalidRequest
      ("topic " ++ "metrics" ++ " has " ++ toString 6 ++ " partitions, cannot shrink to " ++
        toString 3)) := by
    rw [← hsix]
    exact .shrinking ht (by omega)
  obtain ⟨hatomic, hrun⟩ := atomic_and_monotone b
  have herror := (hatomic shrink _).1.mpr (.ruledOut rfl hout)
  obtain ⟨t', ht', hle, -⟩ := (hrun [shrink, .closeProducer, shrink]).1 "metrics" t ht
  refine ⟨herror, (hatomic shrink _).2 herror, t', ht', ?_⟩
  omega

end MetricFeed.Broker
