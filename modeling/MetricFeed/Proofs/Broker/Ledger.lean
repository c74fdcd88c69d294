/-
MetricFeed/Proofs/Broker/Ledger.lean

The logs of a broker's topics in terms of deliveries.  `Broker.Logged initial done b` says that the
broker `b` has come out of the logs `initial` by the deliveries `done`, in their order: each topic's
log goes on with the records appended to it, and each placement tells where its record stands.

A delivery keeps this (`Logged.deliver`), hence a flush does (`Logged.deliverEach`).  Requests to
the administration reshape topics and leave their logs alone (`Broker.Reshapes`,
`reshapes_handle`).
-/
import MetricFeed.Broker.Admin
import MetricFeed.Broker.Delivery

namespace MetricFeed.Broker

variable {τ : Type}

/-! ### Deliveries -/

/-- The record of a delivery, if it was appended to the given topic. -/
def appendedTo? (topic : String) (d : Record × Outcome) : Option Record :=
  match d.2 with
  | .ok _ => if d.1.topic = topic then some d.1 else none
  | .error _ => none

/-- The records that deliveries append to a topic, in order. -/
def appended (topic : String) (done : List (Record × Outcome)) : List Record :=
  done.filterMap (appendedTo? topic)

theorem appended_append (topic : String) (done more : List (Record × Outcome)) :
    appended topic (done ++ more) = appended topic done ++ appended topic more :=
  List.filterMap_append

/-- A placement tells where a record stands after the logs `initial` and the deliveries `before`:
its offset is its place in the log, and its partition is one that the topic has. -/
structure Placed (initial : String → List Record) (b : Broker τ)
    (before : List (Record × Outcome)) (r : Record) (p : Placement) : Prop where
  topic : p.topic = r.topic
  offset : p.offset = (initial r.topic ++ appended r.topic before).length
  partition : ∃ t, b.topic? r.topic = some t ∧ p.partition < max t.partitions 1

/-- The logs of the broker have come out of `initial` by deliveries. -/
structure Logged (initial : String → List Record) (done : List (Record × Outcome))
    (b : Broker τ) : Prop where
  records : ∀ topic, (b.records topic).toList = initial topic ++ appended topic done
  placed : ∀ before r p after, done = before ++ (r, .ok p) :: after → Placed initial b before r p

/-- The record of a placement is found in its topic's log at its offset. -/
theorem Logged.getElem?_offset {initial : String → List Record} {done : List (Record × Outcome)}
    {b : Broker τ} (h : Logged initial done b) {before after : List (Record × Outcome)}
    {r : Record} {p : Placement} (hd : done = before ++ (r, .ok p) :: after) :
    (b.records p.topic)[p.offset]? = some r := by
  obtain ⟨htopic, hoffset, -⟩ := h.placed before r p after hd
  have happ : appended r.topic ((r, .ok p) :: after) = r :: appended r.topic after := by
    unfold appended
    rw [List.filterMap_cons_some]
    exact if_pos rfl
  rw [htopic, hoffset, ← Array.getElem?_toList, h.records, hd, appended_append, happ,
    ← List.append_assoc, List.getElem?_append_right (Nat.le_refl _), Nat.sub_self]
  rfl

/-! ### Brokers that differ in the shape of topics -/

/-- No topic goes away, and none has fewer partitions than before. -/
def Widens (b b' : Broker τ) : Prop :=
  ∀ topic t, b.topic? topic = some t →
    ∃ t', b'.topic? topic = some t' ∧ t.partitions ≤ t'.partitions

theorem Placed.widen {initial : String → List Record} {b b' : Broker τ}
    {before : List (Record × Outcome)} {r : Record} {p : Placement}
    (h : Placed initial b before r p) (hb : Widens b b') : Placed initial b' before r p := by
  obtain ⟨htopic, hoffset, t, ht, hp⟩ := h
  obtain ⟨t', ht', hle⟩ := hb _ t ht
  exact ⟨htopic, hoffset, t', ht', Nat.lt_of_lt_of_le hp (by omega)⟩

/-- Topics may be reshaped: there may be more of them, and they may have more partitions. -/
structure Reshapes (b b' : Broker τ) : Prop where
  records : ∀ topic, b'.records topic = b.records topic
  widens : Widens b b'

theorem Logged.reshape {initial : String → List Record} {done : List (Record × Outcome)}
    {b b' : Broker τ} (h : Logged initial done b) (hb : Reshapes b b') :
    Logged initial done b' := by
  refine ⟨fun topic => ?_, fun before r p after hd => ?_⟩
  · rw [hb.records]
    exact h.records topic
  · exact (h.placed before r p after hd).widen hb.widens

/-- Brokers with the same topics. -/
theorem Reshapes.of_topics {b b' : Broker τ} (h : b'.topics = b.topics) : Reshapes b b' := by
  have ht : ∀ topic, b'.topic? topic = b.topic? topic := by
    intro topic
    unfold topic?
    rw [h]
  refine ⟨fun topic => ?_, fun topic t hb => ⟨t, ?_, Nat.le_refl _⟩⟩
  · unfold Broker.records
    rw [ht]
  · rw [ht, hb]

theorem topic?_insert (b : Broker τ) (name : String) (t : StoredTopic) (topic : String) :
    ({ b with topics := b.topics.insert name t } : Broker τ).topic? topic =
      if topic = name then some t else b.topic? topic :=
  Table.get?_insert _ _ _ _

theorem records_insert (b : Broker τ) (name : String) (t : StoredTopic) (topic : String) :
    ({ b with topics := b.topics.insert name t } : Broker τ).records topic =
      if topic = name then t.records else b.records topic := by
  unfold records
  rw [topic?_insert]
  by_cases h : topic = name
  · rw [if_pos h, if_pos h]
    rfl
  · rw [if_neg h, if_neg h]

/-- A topic is put in the place of one with no more partitions. -/
theorem widens_insert {b : Broker τ} {name : String} {t : StoredTopic}
    (hp : ∀ t', b.topic? name = some t' → t'.partitions ≤ t.partitions) :
    Widens b { b with topics := b.topics.insert name t } := by
  intro topic t' ht'
  rw [topic?_insert]
  by_cases h : topic = name
  · rw [if_pos h]
    rw [h] at ht'
    exact ⟨t, rfl, hp t' ht'⟩
  · rw [if_neg h]
    exact ⟨t', ht', Nat.le_refl _⟩

/-- A topic is put in the place of one with the same log and no more partitions. -/
theorem reshapes_insert {b : Broker τ} {name : String} {t : StoredTopic}
    (hr : t.records = b.records name)
    (hp : ∀ t', b.topic? name = some t' → t'.partitions ≤ t.partitions) :
    Reshapes b { b with topics := b.topics.insert name t } := by
  refine ⟨fun topic => ?_, widens_insert hp⟩
  rw [records_insert]
  by_cases h : topic = name
  · rw [if_pos h, h, hr]
  · rw [if_neg h]

theorem records_of_topic? {b : Broker τ} {name : String} {t : StoredTopic}
    (h : b.topic? name = some t) : b.records name = t.records := by
  unfold records
  rw [h]
  rfl

/-- What an answer does to the broker: nothing, or a topic is put in the place of one with the same
log and no more partitions. -/
theorem answer_cases (r : AdminRequest) (b : Broker τ) :
    (answer r b).2 = b ∨
      ∃ name t, (answer r b).2 = { b with topics := b.topics.insert name t } ∧
        t.records = b.records name ∧
        ∀ t', b.topic? name = some t' → t'.partitions ≤ t.partitions := by
  cases r with
  | createTopic spec =>
    show (b.createTopic spec).2 = b ∨ ∃ name t, (b.createTopic spec).2 = _ ∧ _
    unfold createTopic
    rcases h : b.topic? spec.name with _ | t
    · -- a new topic, with an empty log
      refine .inr ⟨spec.name, _, rfl, ?_, ?_⟩
      · unfold records
        rw [h]
        rfl
      · intro t' ht'
        rw [h] at ht'
        cases ht'
    · exact .inl rfl
  | describeConfig topic => exact .inl rfl
  | alterConfig topic changes =>
    show (b.alterConfig topic changes).2 = b ∨ ∃ name t, (b.alterConfig topic changes).2 = _ ∧ _
    unfold alterConfig
    rcases h : b.topic? topic with _ | t
    · exact .inl rfl
    · -- the topic with another configuration
      refine .inr ⟨topic, _, rfl, (records_of_topic? h).symm, ?_⟩
      intro t' ht'
      rw [h] at ht'
      cases ht'
      exact Nat.le_refl _
  | describeTopic topic => exact .inl rfl
  | increasePartitions topic total =>
    show (b.increasePartitions topic total).2 = b ∨
      ∃ name t, (b.increasePartitions topic total).2 = _ ∧ _
    unfold increasePartitions
    rcases h : b.topic? topic with _ | t
    · exact .inl rfl
    · dsimp only
      by_cases hlt : total < t.partitions
      · rw [if_pos hlt]
        exact .inl rfl
      · -- the topic with no fewer partitions
        rw [if_neg hlt]
        refine .inr ⟨topic, _, rfl, (records_of_topic? h).symm, ?_⟩
        intro t' ht'
        rw [h] at ht'
        cases ht'
        exact Nat.le_of_not_lt hlt
  | close timeout => exact .inl rfl

theorem reshapes_answer (r : AdminRequest) (b : Broker τ) : Reshapes b (answer r b).2 := by
  rcases answer_cases r b with h | ⟨name, t, h, hr, hp⟩
  · rw [h]
    exact .of_topics rfl
  · rw [h]
    exact reshapes_insert hr hp

theorem queue_answer (r : AdminRequest) (b : Broker τ) :
    (answer r b).2.pending = b.pending ∧ (answer r b).2.producerClosed = b.producerClosed := by
  rcases answer_cases r b with h | ⟨name, t, h, -⟩
  · rw [h]
    exact ⟨rfl, rfl⟩
  · rw [h]
    exact ⟨rfl, rfl⟩

theorem Reshapes.trans {b₁ b₂ b₃ : Broker τ} (h : Reshapes b₁ b₂) (h' : Reshapes b₂ b₃) :
    Reshapes b₁ b₃ := by
  refine ⟨fun topic => ?_, fun topic t ht => ?_⟩
  · rw [h'.records, h.records]
  · obtain ⟨t', ht', hle⟩ := h.widens topic t ht
    obtain ⟨t'', ht'', hle'⟩ := h'.widens topic t' ht'
    exact ⟨t'', ht'', Nat.le_trans hle hle'⟩

/-- A request only reshapes topics. -/
theorem reshapes_handle (b : Broker τ) (r : AdminRequest) : Reshapes b (b.handle r).2 := by
  have hj : Reshapes b (b.journal r.call) := .of_topics rfl
  unfold handle
  rcases b.faultFor r with _ | fault
  · exact hj.trans (reshapes_answer r _)
  · exact .of_topics rfl

/-- A request leaves alone what is pending, and whether the producer is closed. -/
theorem queue_handle (b : Broker τ) (r : AdminRequest) :
    (b.handle r).2.pending = b.pending ∧
      (b.handle r).2.producerClosed = b.producerClosed := by
  unfold handle
  rcases b.faultFor r with _ | fault
  · exact queue_answer r (b.journal r.call)
  · exact ⟨rfl, rfl⟩

/-! ### Delivering -/

theorem partitionOf_lt (t : StoredTopic) (key : String) :
    t.partitionOf key < max t.partitions 1 :=
  Nat.mod_lt _ (by omega)

/-- One more delivery: what it appends is at the end of the log, and its placement says so. -/
theorem Logged.snoc {initial : String → List Record} {done : List (Record × Outcome)}
    {b b' : Broker τ} (h : Logged initial done b) (hb : Widens b b') {r : Record}
    {outcome : Outcome}
    (hr : ∀ topic, (b'.records topic).toList =
      (b.records topic).toList ++ appended topic [(r, outcome)])
    (hp : ∀ p, outcome = .ok p → Placed initial b' done r p) :
    Logged initial (done ++ [(r, outcome)]) b' := by
  refine ⟨fun topic => ?_, fun before r' p after hd => ?_⟩
  · rw [hr, h.records, appended_append, List.append_assoc]
  · rcases List.eq_nil_or_concat after with rfl | ⟨after', last, rfl⟩
    · -- the placement is the new one
      obtain ⟨rfl, hlast⟩ := List.append_inj' hd rfl
      cases hlast
      exact hp p rfl
    · rw [List.concat_eq_append, ← List.cons_append, ← List.append_assoc] at hd
      obtain ⟨hd', -⟩ := List.append_inj' hd rfl
      exact (h.placed before r' p after' hd').widen hb

/-- A delivery appends its record to the topic's log, or fails and leaves the logs alone. -/
theorem Logged.deliver {initial : String → List Record} {done : List (Record × Outcome)}
    {b : Broker τ} (h : Logged initial done b) (r : Record) :
    Logged initial (done ++ [(r, (b.deliver r).1)]) (b.deliver r).2 := by
  have hfail : ∀ (b' : Broker τ) (fault : PublishFault), Reshapes b b' →
      Logged initial (done ++ [(r, .error fault)]) b' := by
    intro b' fault hb
    refine h.snoc hb.widens (fun topic => ?_) nofun
    rw [hb.records]
    exact (List.append_nil _).symm
  unfold Broker.deliver
  by_cases hf : 0 < b.failNextSends
  · rw [if_pos hf]
    exact hfail _ _ (.of_topics rfl)
  · rw [if_neg hf]
    rcases ht : b.topic? r.topic with _ | t
    · exact hfail _ _ (.of_topics rfl)
    · have hlog : b.records r.topic = t.records := records_of_topic? ht
      refine h.snoc (widens_insert ?_) (fun topic => ?_) (fun p hp => ?_)
      · intro t' ht'
        rw [ht] at ht'
        cases ht'
        exact Nat.le_refl _
      · rw [records_insert]
        show _ = (b.records topic).toList ++ (if r.topic = topic then some r else none).toList
        by_cases htopic : topic = r.topic
        · rw [if_pos htopic, if_pos htopic.symm, htopic, hlog]
          exact Array.toList_push
        · rw [if_neg htopic, if_neg (Ne.symm htopic)]
          exact (List.append_nil _).symm
      · cases hp
        refine ⟨rfl, ?_, (t.append r).2, ?_, partitionOf_lt t r.key⟩
        · show t.records.size = _
          rw [← h.records, hlog]
          rfl
        · rw [topic?_insert]
          exact if_pos rfl

/-- The deliveries of several records that wait with their tickets. -/
def deliveries : List (Record × τ) → Broker τ → List ((Record × τ) × Outcome)
  | [], _ => []
  | e :: rest, b => (e, (b.deliver e.1).1) :: deliveries rest (b.deliver e.1).2

/-- Every record is delivered, in order. -/
theorem map_fst_deliveries (rs : List (Record × τ)) (b : Broker τ) :
    (deliveries rs b).map (·.1) = rs := by
  induction rs generalizing b with
  | nil => rfl
  | cons e rest ih => exact congrArg (e :: ·) (ih _)

/-- Every outcome is handed out with its record's ticket, in order. -/
theorem deliverEach_fst (rs : List (Record × τ)) (b : Broker τ) :
    (deliverEach rs b).1 = (deliveries rs b).map fun d => (d.1.2, d.2) := by
  induction rs generalizing b with
  | nil => rfl
  | cons e rest ih => exact congrArg ((e.2, (b.deliver e.1).1) :: ·) (ih _)

theorem Logged.deliverEach {initial : String → List Record} {done : List (Record × Outcome)}
    {b : Broker τ} (h : Logged initial done b) (rs : List (Record × τ)) :
    Logged initial (done ++ (deliveries rs b).map fun d => (d.1.1, d.2))
      (Broker.deliverEach rs b).2 := by
  induction rs generalizing done b with
  | nil =>
    show Logged initial (done ++ []) b
    rw [List.append_nil]
    exact h
  | cons e rest ih =>
    have hrest := ih (h.deliver e.1)
    rw [List.append_assoc] at hrest
    exact hrest

end MetricFeed.Broker
