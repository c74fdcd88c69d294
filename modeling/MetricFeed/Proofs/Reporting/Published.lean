/-
MetricFeed/Proofs/Reporting/Published.lean

How many records a loop has published, and how many the producer has accepted.  In the stages over
the registered metrics and the host a record is counted as soon as it is accepted.  In the walk
over the legacy registry it is counted for the walk, and the walk's count is added to those
published when the walk is over; a fault is such an end, a panic is not.  The records of a walk
that panics are stranded: accepted, but never counted (`Tick.stranded`).

Main result (`Course.publication_account`): at every point of every course, published and stranded
records together are the accepted ones, so that the loop's count is right exactly as long as none
has been stranded.
-/
import MetricFeed.Proofs.Reporting.Audit
import MetricFeed.Proofs.Reporting.Course

namespace MetricFeed

open Act (Keeps Ensures)

variable {S H : Type}

/-! ### Publishing -/

/-- Whether a reply of the producer accepts the record. -/
def Reply.accepts : Reply (Except PublishFault Unit) → Bool
  | .value (.ok _) => true
  | .value (.error _) | .panicked _ => false

namespace Pass

variable {sur : Surroundings S H} {nodeId : Int32} {now : Int64}

theorem send_accepted (r : Record) (sample : Sample) (a : Audited S) :
    (sur.audited.channel.producer.send r sample a).2.accepted.length =
      a.accepted.length + (sur.audited.channel.producer.send r sample a).1.accepts.toNat := by
  show (Audited.send sur.channel.producer r sample a).2.accepted.length =
    a.accepted.length + (Audited.send sur.channel.producer r sample a).1.accepts.toNat
  unfold Audited.send
  rcases sur.channel.producer.send r sample a.base with ⟨(_ | _) | _, s⟩
  · rfl
  · -- accepted: the list grows by one
    exact List.length_append
  · rfl

theorem publish_accepted (sample : Sample) (a : Audited S) :
    (sur.audited.channel.publish sample a).2.accepted.length =
      a.accepted.length + (sur.audited.channel.publish sample a).1.accepts.toNat := by
  unfold Channel.publish
  have hs : sur.audited.channel.serialize sample a =
      Audited.lift (sur.channel.serialize sample) a := rfl
  rw [hs]
  unfold Audited.lift
  rcases sur.channel.serialize sample a.base with ⟨(fault | payload) | message, s⟩
  · rfl
  · exact send_accepted _ sample ⟨sur.channel.note (.sending sample) s, a.accepted⟩
  · rfl

/-- A sample is published exactly if its record is accepted. -/
theorem publish_ensures (sample : Sample) (n k w : Nat) :
    Ensures (fun p => p.state.accepted.length = n ∧ p.published = k ∧ p.walked = w)
      (publish sur.audited sample)
      (fun outcome p => p.published = k ∧ p.walked = w ∧
        p.state.accepted.length = match outcome with
          | .ok _ => n + 1
          | .error _ => n) := by
  rintro p ⟨rfl, rfl, rfl⟩
  have h : (sur.audited.channel.publish sample p.state).2.accepted.length =
      p.state.accepted.length +
        (sur.audited.channel.publish sample p.state).1.accepts.toNat :=
    publish_accepted sample p.state
  unfold publish
  rw [Act.bind_apply]
  unfold ask
  revert h
  rcases sur.audited.channel.publish sample p.state with ⟨(_ | _) | _, a⟩
  · exact fun h => ⟨rfl, rfl, h⟩
  · exact fun h => ⟨rfl, rfl, h⟩
  · exact fun h => ⟨rfl, rfl, h⟩

/-! ### Counting in a pass -/

/-- Every accepted record counts, as published or for the walk that is under way. -/
def Counted (p : PassState (Audited S)) : Prop :=
  p.published + p.walked = p.state.accepted.length

/-- Every accepted record counts as published. -/
def Settled (p : PassState (Audited S)) : Prop :=
  p.published = p.state.accepted.length

theorem publishWalked_counted (sample : Sample) :
    Keeps Counted (publishWalked sur.audited sample) := by
  intro p hp
  refine Ensures.bind (publish_ensures sample _ _ _) (Q := fun _ => Counted) ?_ ?_ p
    ⟨rfl, rfl, rfl⟩
  · -- accepted: counted for the walk
    rintro _ q ⟨hk, hw, hn⟩
    show q.published + (q.walked + 1) = q.state.accepted.length
    rw [hk, hw, hn, ← hp]
    rfl
  · -- refused: neither side changes
    rintro _ q ⟨hk, hw, hn⟩
    show q.published + q.walked = q.state.accepted.length
    rw [hk, hw, hn, ← hp]

theorem report_settled (sample : Sample) :
    Keeps Settled (publish sur.audited sample >>= fun _ => countPublished 1) := by
  intro p hp
  refine Ensures.bind (publish_ensures sample _ _ _) (Q := fun _ => Settled) ?_ ?_ p
    ⟨rfl, rfl, rfl⟩
  · rintro _ q ⟨hk, -, hn⟩
    show q.published + 1 = q.state.accepted.length
    rw [hk, hn, ← hp]
  · rintro _ q ⟨hk, -, hn⟩
    show q.published = q.state.accepted.length
    rw [hk, hn, ← hp]

/-- The stages after the walk count every record at once. -/
theorem reportLive_settled : Keeps Settled (reportLive sur.audited nodeId now) := by
  refine reportLive_keeps ⟨?_, ?_, ?_, ?_, report_settled⟩
  · exact fun _ => keeps_say fun _ hp => hp
  · exact fun _ => keeps_ask fun _ hp => hp
  · exact fun _ _ => keeps_ask fun _ hp => hp
  · exact keeps_ask fun _ hp => hp

theorem walk_counted (w : Walk) :
    Keeps Counted
      (w.run (fun m => say sur.audited (.visitingLegacy m.id))
        (visit sur.audited nodeId now)) := by
  refine walk_keeps ⟨?_, ?_, ?_, publishWalked_counted⟩ w
  · exact fun _ => keeps_say fun _ hp => hp
  · exact fun _ _ hp => hp
  · exact fun _ _ => keeps_ask fun _ hp => hp

/-- A walk by itself publishes nothing: its records are only counted for the walk. -/
theorem walk_published (k : Nat) (w : Walk) :
    Keeps (fun p : PassState S => p.published = k)
      (w.run (fun m => say sur (.visitingLegacy m.id)) (visit sur nodeId now)) := by
  refine walk_keeps ⟨?_, ?_, ?_, ?_⟩ w
  · exact fun _ => keeps_say fun _ hp => hp
  · exact fun _ _ hp => hp
  · exact fun _ _ => keeps_ask fun _ hp => hp
  · exact fun _ => Keeps.bind (keeps_publish fun _ hp => hp) fun _ => Keeps.change fun _ hp => hp

/-- The walk's records are counted when it is over, unless it ends with a panic. -/
theorem reportLegacy_settles (sur : Surroundings S H) (nodeId : Int32) (now : Int64) (k : Nat) :
    Ensures (fun p => Settled p ∧ p.published = k) (reportLegacy sur.audited nodeId now)
      (fun outcome p => match outcome with
        | .error .panic => p.published = k
        | .error (.fault _) | .ok _ => Settled p) := by
  rintro p ⟨hs, hk⟩
  rcases h : sur.walk with _ | walk
  · have hnone : sur.audited.walk = none := congrArg (Option.map Audited.lift) h
    rw [reportLegacy_of_none hnone]
    exact hs
  · have hsome : sur.audited.walk = some (Audited.lift walk) :=
      congrArg (Option.map Audited.lift) h
    rw [reportLegacy_of_some hsome]
    have hc : Counted (walkFrom sur.audited nodeId now (Audited.lift walk) p).2 :=
      walk_counted _ _ hs
    have hp : (walkFrom sur.audited nodeId now (Audited.lift walk) p).2.published = k :=
      walk_published k _ _ hk
    revert hc hp
    rcases walkFrom sur.audited nodeId now (Audited.lift walk) p with ⟨(fault | _) | _, q⟩
    · exact fun hc _ => hc
    · -- a panic: the walk's count is dropped, so only what was published before is there
      exact fun _ hp => hp
    · exact fun hc _ => hc

end Pass

/-! ### Ticks -/

namespace Tick

variable {setup : LoopSetup} {sur : Surroundings S H} {t : Tick S}

/-- What the audited pass works on, before any record is accepted. -/
def auditStart (sur : Surroundings S H) (t : Tick S) : PassState (Audited S) :=
  { state := ⟨(t.start sur).state, []⟩, rates := t.rates }

/-- The records that the producer accepts in the pass. -/
def accepted (setup : LoopSetup) (sur : Surroundings S H) (t : Tick S) : List Record :=
  (Pass.run sur.audited setup.nodeId t.nowMs (t.auditStart sur)).2.state.accepted

/-- The records that the producer accepts in a walk that then panics. -/
def stranded (setup : LoopSetup) (sur : Surroundings S H) (t : Tick S) : List Record :=
  match Pass.reportLegacy sur.audited setup.nodeId t.nowMs (t.auditStart sur) with
  | (.error .panic, p) => p.state.accepted
  | (.error (.fault _), _) | (.ok _, _) => []

/-- The audited pass publishes as many records as the pass. -/
theorem published_audited :
    (Pass.run sur.audited setup.nodeId t.nowMs (t.auditStart sur)).2.published =
      (t.final setup sur).published := by
  have h : Pass.run sur setup.nodeId t.nowMs (t.start sur) = _ :=
    Pass.run_maps (t.auditStart sur)
  unfold final
  rw [h]
  rfl

/-- Of the accepted records, all but the stranded ones count as published. -/
theorem published_add_stranded (setup : LoopSetup) (sur : Surroundings S H) (t : Tick S) :
    (t.final setup sur).published + (t.stranded setup sur).length =
      (t.accepted setup sur).length := by
  have hl := Pass.reportLegacy_settles sur setup.nodeId t.nowMs 0 (t.auditStart sur) ⟨rfl, rfl⟩
  rw [← published_audited]
  unfold accepted stranded
  rw [Pass.run_eq, Act.bind_apply]
  revert hl
  rcases Pass.reportLegacy sur.audited setup.nodeId t.nowMs (t.auditStart sur) with
    ⟨(fault | _) | _, p⟩
  · exact fun hl => hl
  · -- a panic in the walk: nothing is published, and all that was accepted is stranded
    intro hl
    show p.published + p.state.accepted.length = p.state.accepted.length
    rw [hl, Nat.zero_add]
  · exact fun hl => Pass.reportLive_settled p hl

end Tick

/-! ### Courses -/

/-- The records that the producer accepts in the passes of a history. -/
def acceptedIn (setup : LoopSetup) (sur : Surroundings S H) (history : List (LoopEvent S)) :
    List Record :=
  (ticksOf history).flatMap (·.accepted setup sur)

/-- The stranded ones among them. -/
def strandedIn (setup : LoopSetup) (sur : Surroundings S H) (history : List (LoopEvent S)) :
    List Record :=
  (ticksOf history).flatMap (·.stranded setup sur)

section Courses

variable {setup : LoopSetup} {sur : Surroundings S H} {others : S → S → Prop} {s₀ s : S}
variable {now : Nat} {history : List (LoopEvent S)} {st : LoopState S}

/-- The statistics of a loop in terms of its passes. -/
structure LoopStats.Tells (setup : LoopSetup) (sur : Surroundings S H)
    (history : List (LoopEvent S)) (stats : LoopStats) : Prop where
  ticks : stats.ticks = (ticksOf history).length
  failedTicks : stats.failedTicks = (ticksOf history).countP (·.failed setup sur)
  published : stats.published + (strandedIn setup sur history).length =
    (acceptedIn setup sur history).length

theorem LoopStats.Tells.tick {stats : LoopStats} (h : stats.Tells setup sur history)
    (t : Tick S) : (t.count setup sur stats).Tells setup sur (.tick t :: history) := by
  refine ⟨?_, ?_, ?_⟩
  · show stats.ticks + 1 = (ticksOf history).length + 1
    rw [h.ticks]
  · show stats.failedTicks + (t.failed setup sur).toNat =
      (t :: ticksOf history).countP (·.failed setup sur)
    rw [List.countP_cons, h.failedTicks]
    cases t.failed setup sur <;> rfl
  · have ht := t.published_add_stranded setup sur
    have hp := h.published
    show stats.published + (t.final setup sur).published +
        (t.stranded setup sur ++ strandedIn setup sur history).length =
      (t.accepted setup sur ++ acceptedIn setup sur history).length
    rw [List.length_append, List.length_append]
    omega

/-- Throughout a course, the statistics tell of its passes. -/
theorem Course.tells (h : Course setup sur others s₀ now history st s) :
    st.stats.Tells setup sur history := by
  refine h.invariant (I := fun history _ stats _ => stats.Tells setup sur history)
    sur.idleWithin_true ⟨rfl, rfl, rfl⟩ ?_ ?_ ?_ ?_
  · exact fun _ hi => hi
  · exact fun _ hi => hi
  · exact fun t hi => hi.tick t
  · exact fun hi => ⟨hi.ticks, hi.failedTicks, hi.published⟩

/-- **The account of published records.**  At every point of a course, a pass that comes next adds
one to the passes, one to those failed exactly if a fault or a panic ends it, and to those
published the records accepted in it that it does not strand.  All in all, published and stranded
records are the accepted ones, so the count of published records is right exactly as long as none
has been stranded. -/
theorem Course.publication_account (h : Course setup sur others s₀ now history st s) :
    (∀ t, st.event? setup sur now s = some (.tick t) →
      (st.step setup sur now s).1.stats.ticks = st.stats.ticks + 1 ∧
      (st.step setup sur now s).1.stats.failedTicks =
        st.stats.failedTicks + (t.failed setup sur).toNat ∧
      (st.step setup sur now s).1.stats.published + (t.stranded setup sur).length =
        st.stats.published + (t.accepted setup sur).length) ∧
    st.stats.ticks = (ticksOf history).length ∧
    st.stats.failedTicks = (ticksOf history).countP (·.failed setup sur) ∧
    st.stats.failedTicks ≤ st.stats.ticks ∧
    st.stats.published + (strandedIn setup sur history).length =
      (acceptedIn setup sur history).length ∧
    (st.stats.published = (acceptedIn setup sur history).length ↔
      ∀ t ∈ ticksOf history, t.stranded setup sur = []) := by
  obtain ⟨hticks, hfailed, hpublished⟩ := h.tells
  refine ⟨?_, hticks, hfailed, ?_, hpublished, ?_⟩
  · -- the next step, if a pass is its event
    intro t ht
    have hl := step_leads setup now s sur.idleWithin_true
      (h.callWithin sur.idleWithin_true)
    rw [ht] at hl
    cases hl with
    | tick _ _ _ hs _ =>
      have hrecords := t.published_add_stranded setup sur
      rw [hs]
      refine ⟨rfl, rfl, ?_⟩
      show st.stats.published + (t.final setup sur).published + _ = _
      omega
  · rw [hticks, hfailed]
    exact List.countP_le_length
  · have hnil : (strandedIn setup sur history).length = 0 ↔
        ∀ t ∈ ticksOf history, t.stranded setup sur = [] := by
      rw [List.length_eq_zero_iff]
      exact List.flatMap_eq_nil_iff
    rw [← hnil]
    omega

/-- Surroundings whose registry presents a gauge and then panics. -/
def Surroundings.collapsing : Surroundings Unit Empty :=
  { Surroundings.quiet Unit with
    walk := some fun s => (⟨[⟨⟨"load", "recent", .empty⟩, .gauge 1⟩], .panicked, false⟩, s) }

/-- With a registry that panics, a record is accepted that never counts as published. -/
theorem published_ne_accepted :
    ∃ now history st s, Course .everyMilli .collapsing Eq () now history st s ∧
      st.stats.published ≠ (acceptedIn .everyMilli .collapsing history).length :=
  ⟨1000000, _, _, _, ((Course.start 0).wait (Nat.zero_le _) rfl).step rfl, by decide⟩

theorem publication_account_of_collapsing :
    ∃ now history st s, Course .everyMilli .collapsing Eq () now history st s ∧
      st.stats.ticks = 1 ∧ st.stats.failedTicks = 1 ∧
      (strandedIn .everyMilli .collapsing history).length = 1 ∧
      st.stats.published + 1 = (acceptedIn .everyMilli .collapsing history).length := by
  have hc : Course .everyMilli .collapsing Eq () _ _ _ _ :=
    ((Course.start 0).wait (Nat.zero_le 1000000) rfl).step rfl
  obtain ⟨-, hticks, hfailed, -, hrecords, -⟩ := hc.publication_account
  exact ⟨_, _, _, _, hc, hticks, hfailed, rfl, hrecords⟩

end Courses

end MetricFeed
