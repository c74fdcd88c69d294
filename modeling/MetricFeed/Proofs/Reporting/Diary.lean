/-
MetricFeed/Proofs/Reporting/Diary.lean

The calls that a reporting loop makes of its clients.  Somewhere in the state of the surroundings a
diary is kept of them: each call is entered when it is made, whatever becomes of it, and nothing
else is entered (`Surroundings.KeepsDiary`).

The calls of a loop are in order (`Orderly`): the requests that bring the topic into its shape, the
closing of the administrative client, and only then records and flushes.

* `Pass.run_enters` : a collection pass makes no calls but to hand records over;
* `step_made` : each step of a loop goes on with its calls in their order.
-/
import MetricFeed.Proofs.Reporting.Stopping

namespace MetricFeed

variable {S H : Type}

/-! ### Calls -/

/-- A call of one of the agent's clients. -/
inductive ClientCall
  | admin (request : AdminRequest)
  | send (record : Record)
  | flush
  | close

namespace ClientCall

/-- An administrative request, other than to close the client. -/
def IsRequest : ClientCall → Prop
  | .admin (.close _) => False
  | .admin _ => True
  | .send _ | .flush | .close => False

/-- A call of the producer, other than to close it. -/
def IsWork : ClientCall → Prop
  | .send _ | .flush => True
  | .admin _ | .close => False

/-- Whether the producer is to be closed. -/
def closesProducer : ClientCall → Bool
  | .close => true
  | .admin _ | .send _ | .flush => false

theorem closesProducer_of_isRequest {c : ClientCall} (h : c.IsRequest) :
    c.closesProducer = false := by
  cases c with
  | close => exact h.elim
  | _ => rfl

theorem closesProducer_of_isWork {c : ClientCall} (h : c.IsWork) : c.closesProducer = false := by
  cases c with
  | close => exact h.elim
  | _ => rfl

end ClientCall

/-! ### Their order -/

/-- The calls that bring a topic into its shape, if there is one to be brought into: any number of
requests, and at last the closing of the administrative client. -/
def Prepared (topic? : Option TopicSpec) (made : List ClientCall) : Prop :=
  match topic? with
  | none => made = []
  | some _ => ∃ requests, (∀ c ∈ requests, c.IsRequest) ∧
    made = requests ++ [.admin (.close Provisioning.closeTimeout)]

/-- The preparations have been made, and then records have been handed over and flushed. -/
def Worked (topic? : Option TopicSpec) (made : List ClientCall) : Prop :=
  ∃ prep work, Prepared topic? prep ∧ (∀ c ∈ work, c.IsWork) ∧ made = prep ++ work

/-- The calls are in order: nothing but requests, or preparations that are over and work. -/
def Orderly (topic? : Option TopicSpec) (made : List ClientCall) : Prop :=
  topic?.isSome ∧ (∀ c ∈ made, c.IsRequest) ∨ Worked topic? made

/-- The calls that a loop has made by its present phase. -/
def LoopState.Made (setup : LoopSetup) (st : LoopState S) (made : List ClientCall) : Prop :=
  match st.phase with
  | .starting => made = []
  | .provisioning _ _ => setup.topic?.isSome ∧ ∀ c ∈ made, c.IsRequest
  | .releasing _ => Prepared setup.topic? made
  | .flushing _ _ | .sleeping _ | .exited | .crashed _ => Worked setup.topic? made

section Order

variable {topic? : Option TopicSpec} {made : List ClientCall}

theorem Prepared.worked (h : Prepared topic? made) : Worked topic? made :=
  ⟨made, [], h, fun _ hc => absurd hc List.not_mem_nil, (List.append_nil made).symm⟩

/-- Work goes on. -/
theorem Worked.append (h : Worked topic? made) {work : List ClientCall}
    (hwork : ∀ c ∈ work, c.IsWork) : Worked topic? (made ++ work) := by
  obtain ⟨prep, before, hprep, hbefore, rfl⟩ := h
  refine ⟨prep, before ++ work, hprep, ?_, List.append_assoc _ _ _⟩
  intro c hc
  rcases List.mem_append.mp hc with h | h
  · exact hbefore c h
  · exact hwork c h

theorem orderly_nil (topic? : Option TopicSpec) : Orderly topic? [] := by
  rcases topic? with _ | spec
  · exact .inr (Prepared.worked rfl)
  · exact .inl ⟨rfl, fun _ hc => absurd hc List.not_mem_nil⟩

theorem Prepared.closesProducer (h : Prepared topic? made) :
    ∀ c ∈ made, c.closesProducer = false := by
  unfold Prepared at h
  rcases topic? with _ | spec
  · intro c hc
    rw [show made = [] from h] at hc
    exact absurd hc List.not_mem_nil
  · obtain ⟨requests, hrequests, rfl⟩ := h
    intro c hc
    rcases List.mem_append.mp hc with hc | hc
    · exact ClientCall.closesProducer_of_isRequest (hrequests c hc)
    · rw [List.mem_singleton.mp hc]
      rfl

/-- As long as the calls are in order, the producer has not been closed. -/
theorem Orderly.closesProducer (h : Orderly topic? made) :
    ∀ c ∈ made, c.closesProducer = false := by
  rcases h with ⟨-, hrequests⟩ | ⟨prep, work, hprep, hwork, rfl⟩
  · exact fun c hc => ClientCall.closesProducer_of_isRequest (hrequests c hc)
  · intro c hc
    rcases List.mem_append.mp hc with hc | hc
    · exact hprep.closesProducer c hc
    · exact ClientCall.closesProducer_of_isWork (hwork c hc)

/-- The calls of a loop are in order. -/
theorem LoopState.Made.orderly {setup : LoopSetup} {st : LoopState S} (h : st.Made setup made) :
    Orderly setup.topic? made := by
  unfold LoopState.Made at h
  rcases hphase : st.phase with _ | _ | _ | _ | _ | _ | _ <;> rw [hphase] at h
  · rw [show made = [] from h]
    exact orderly_nil _
  · exact .inl h
  · exact .inr (Prepared.worked h)
  · exact .inr h
  · exact .inr h
  · exact .inr h
  · exact .inr h

end Order

/-! ### The diary -/

/-- What is done between the states `s` and `s'` enters the calls `made` in the diary.  It neither
closes the channel nor asks the loop to stop. -/
structure Surroundings.Enters (sur : Surroundings S H) (diary : S → List ClientCall)
    (made : List ClientCall) (s s' : S) : Prop where
  diary : diary s' = diary s ++ made
  isClosed : sur.channel.isClosed s' = sur.channel.isClosed s
  cancelled : sur.cancelled s' = sur.cancelled s

/-- A diary is kept of the calls of the clients: a call is entered when it is made, and nothing
else is.  Only the agent closes its channel and asks its loop to stop. -/
structure Surroundings.KeepsDiary (sur : Surroundings S H) (diary : S → List ClientCall) :
    Prop where
  admin : ∀ r s, sur.Enters diary [.admin r] s (sur.admin r s).2
  send : ∀ r sample s, sur.Enters diary [.send r] s (sur.channel.producer.send r sample s).2
  flush : ∀ s, sur.Enters diary [.flush] s (sur.channel.producer.flush s).2
  close : ∀ timeout s, sur.Enters diary [.close] s (sur.channel.producer.close timeout s).2
  administered : ∀ r s s', sur.Enters diary [] s' ((sur.admin r s).1.finish s').2
  flushed : ∀ s s', sur.Enters diary [] s' ((sur.channel.producer.flush s).1.finish s').2
  closed : ∀ timeout s s',
    sur.Enters diary [] s' ((sur.channel.producer.close timeout s).1.finish s').2
  note : ∀ n s, sur.Enters diary [] s (sur.note n s)
  channelNote : ∀ n s, sur.Enters diary [] s (sur.channel.note n s)
  setFailures : ∀ n s, sur.Enters diary [] s (sur.channel.setFailures n s)
  serialize : ∀ sample s, sur.Enters diary [] s (sur.channel.serialize sample s).2
  walk : ∀ walk ∈ sur.walk, ∀ s, sur.Enters diary [] s (walk s).2
  read : ∀ handle s, sur.Enters diary [] s (sur.read handle s).2
  sample : ∀ id value now nodeId s,
    sur.Enters diary [] s (sur.converter.sample id value now nodeId s).2
  host : ∀ now nodeId s, sur.Enters diary [] s (sur.converter.host now nodeId s).2
  favoursCall : ∀ s, sur.Enters diary [] s (sur.favoursCall s).2

section Diary

variable {sur : Surroundings S H} {diary : S → List ClientCall} {made : List ClientCall}
variable {setup : LoopSetup} {now : Nat} {st : LoopState S} {s s₁ s' : S}

namespace Surroundings

theorem Enters.refl (sur : Surroundings S H) (diary : S → List ClientCall) (s : S) :
    sur.Enters diary [] s s :=
  ⟨(List.append_nil _).symm, rfl, rfl⟩

theorem Enters.trans {later : List ClientCall} (h : sur.Enters diary made s s₁)
    (h' : sur.Enters diary later s₁ s') : sur.Enters diary (made ++ later) s s' where
  diary := by rw [h'.diary, h.diary, List.append_assoc]
  isClosed := h'.isClosed.trans h.isClosed
  cancelled := h'.cancelled.trans h.cancelled

/-- What enters nothing may be done before or after. -/
theorem Enters.after (h : sur.Enters diary [] s s₁) (h' : sur.Enters diary made s₁ s') :
    sur.Enters diary made s s' :=
  h.trans h'

theorem Enters.before (h : sur.Enters diary made s s₁) (h' : sur.Enters diary [] s₁ s') :
    sur.Enters diary made s s' :=
  List.append_nil made ▸ h.trans h'

/-- Work has been entered, and nothing else. -/
def EntersWork (sur : Surroundings S H) (diary : S → List ClientCall) (s s' : S) : Prop :=
  ∃ work, (∀ c ∈ work, ClientCall.IsWork c) ∧ sur.Enters diary work s s'

theorem Enters.work (h : sur.Enters diary [] s s') : sur.EntersWork diary s s' :=
  ⟨[], fun _ hc => absurd hc List.not_mem_nil, h⟩

theorem EntersWork.trans (h : sur.EntersWork diary s s₁) (h' : sur.EntersWork diary s₁ s') :
    sur.EntersWork diary s s' := by
  obtain ⟨work, hwork, hin⟩ := h
  obtain ⟨later, hlater, hin'⟩ := h'
  refine ⟨work ++ later, fun c hc => ?_, hin.trans hin'⟩
  rcases List.mem_append.mp hc with h | h
  · exact hwork c h
  · exact hlater c h

end Surroundings

variable (hdiary : sur.KeepsDiary diary)

include hdiary

theorem Surroundings.KeepsDiary.notes (ns : List Notice) (s : S) :
    sur.Enters diary [] s (ns.foldl (fun s n => sur.note n s) s) := by
  induction ns generalizing s with
  | nil => exact .refl sur diary s
  | cons n rest ih => exact (hdiary.note n s).after (ih _)

/-- Nothing that the loop does takes a request to stop back. -/
theorem Surroundings.KeepsDiary.keepsStop : sur.KeepsStop where
  idle :=
    { refl := fun _ h => h
      trans := fun h h' hc => h' (h hc)
      note := fun n s h => (hdiary.note n s).cancelled.trans h
      flush := fun s h => (hdiary.flush s).cancelled.trans h
      flushed := fun s s' h => (hdiary.flushed s s').cancelled.trans h
      admin := fun r s h => (hdiary.admin r s).cancelled.trans h
      answered := fun r s s' h => (hdiary.administered r s s').cancelled.trans h
      favoursCall := fun s h => (hdiary.favoursCall s).cancelled.trans h }
  setFailures n s h := (hdiary.setFailures n s).cancelled.trans h

/-! ### Passes -/

theorem publish_enters (sample : Sample) (s : S) :
    sur.EntersWork diary s (sur.channel.publish sample s).2 := by
  have hs := hdiary.serialize sample s
  unfold Channel.publish
  rcases hr : sur.channel.serialize sample s with ⟨(fault | payload) | message, s₁⟩ <;>
    rw [hr] at hs
  · exact hs.work
  · -- only what has been serialized is sent
    have hnote := hdiary.channelNote (.sending sample) s₁
    refine ⟨[.send _], fun c hc => ?_, (hs.after hnote).after (hdiary.send _ sample _)⟩
    rw [List.mem_singleton.mp hc]
    trivial
  · exact hs.work

/-- **A collection pass makes no calls but to hand records over.** -/
theorem Pass.run_enters (nodeId : Int32) (nowMs : Int64) (p : PassState S) :
    sur.EntersWork diary p.state (Pass.run sur nodeId nowMs p).2.state :=
  Pass.run_within
    { refl := fun s => (Surroundings.Enters.refl sur diary s).work
      trans := fun h h' => h.trans h'
      note := fun n s => (hdiary.note n s).work
      walk := fun walk hwalk s => (hdiary.walk walk hwalk s).work
      read := fun handle s => (hdiary.read handle s).work
      sample := fun id value now nodeId s => (hdiary.sample id value now nodeId s).work
      host := fun now nodeId s => (hdiary.host now nodeId s).work
      publish := publish_enters hdiary } p

theorem runPass_enters (nowMs : Int64) (st : LoopState S) (s : S) :
    sur.EntersWork diary s (st.runPass setup sur nowMs s).2 := by
  have htake : sur.Enters diary [] s (sur.channel.takeFailures s).2 := hdiary.setFailures 0 s
  have hpass := Pass.run_enters hdiary setup.nodeId nowMs (Tick.start sur ⟨nowMs, st.rates, s⟩)
  rw [runPass_eq]
  exact htake.work.trans (hpass.trans (hdiary.notes _ _).work)

/-! ### Steps -/

/-- The loop is left where it is only worked, and more work has been done. -/
theorem iterate_made (setup : LoopSetup) (now : Nat) (st : LoopState S) (s : S)
    (hmade : Worked setup.topic? made) :
    ∃ work, sur.Enters diary work s (st.iterate setup sur now s).2 ∧
      (st.iterate setup sur now s).1.Made setup (made ++ work) := by
  have hidle : Worked setup.topic? (made ++ []) := (List.append_nil made).symm ▸ hmade
  unfold LoopState.iterate
  split
  · exact ⟨[], hdiary.note _ s, hidle⟩
  · rcases setup.clock.nowMs? now with _ | nowMs
    · exact ⟨[], .refl sur diary s, hidle⟩
    · -- the pass, if one is due, and the flush
      have hnote := hdiary.note (.reportingAt nowMs) s
      have hflush : ∀ s, sur.EntersWork diary s (sur.channel.producer.flush s).2 := fun s =>
        ⟨[.flush], fun c hc => by rw [List.mem_singleton.mp hc]; trivial, hdiary.flush s⟩
      dsimp only
      split
      · obtain ⟨work, hwork, henters⟩ :=
          (hnote.work.trans (runPass_enters hdiary nowMs st _)).trans (hflush _)
        exact ⟨work, henters, hmade.append hwork⟩
      · obtain ⟨work, hwork, henters⟩ := hnote.work.trans (hflush _)
        exact ⟨work, henters, hmade.append hwork⟩

theorem accountFailures_enters (nowMs : Int64) (st : LoopState S) (s : S) :
    sur.Enters diary [] s (st.accountFailures sur nowMs s).2 := by
  have htake : sur.Enters diary [] s (sur.channel.takeFailures s).2 := hdiary.setFailures 0 s
  unfold LoopState.accountFailures
  dsimp only
  split
  · exact htake
  · exact htake.after (hdiary.note _ _)

theorem finishIteration_made (now : Nat) (nowMs : Int64) (st : LoopState S) (s : S)
    (hmade : Worked setup.topic? made) :
    sur.Enters diary [] s (st.finishIteration setup sur now nowMs s).2 ∧
      (st.finishIteration setup sur now nowMs s).1.Made setup made := by
  have haccount := accountFailures_enters hdiary nowMs st s
  unfold LoopState.finishIteration
  rcases setup.clock.nowMs? now with _ | endMs
  · exact ⟨haccount, hmade⟩
  · exact ⟨haccount.after (hdiary.note _ _), hmade⟩

theorem beginRelease_made (now : Nat) (st : LoopState S) (s : S) (htopic : setup.topic?.isSome)
    (hmade : ∀ c ∈ made, c.IsRequest) :
    sur.Enters diary [.admin (.close Provisioning.closeTimeout)] s
        (st.beginRelease sur now s).2 ∧
      (st.beginRelease sur now s).1.Made setup
        (made ++ [.admin (.close Provisioning.closeTimeout)]) := by
  obtain ⟨spec, hspec⟩ := Option.isSome_iff_exists.mp htopic
  refine ⟨hdiary.admin _ s, ?_⟩
  show Prepared setup.topic? _
  rw [hspec]
  exact ⟨made, hmade, rfl⟩

omit hdiary in
/-- None of the requests that bring the topic into its shape closes the client. -/
theorem Provisioning.isRequest_request (spec : TopicSpec) (step : Provisioning.Step) :
    (ClientCall.admin ((Provisioning.provision spec).request step)).IsRequest := by
  rcases step with _ | (_ | _) | ⟨_, _ | _⟩ <;> trivial

theorem answered_enters {σ α : Type} {d : Dialogue σ α} (p : d.Progress S)
    (answer : Except AdminFault (d.request p.step).Answer) (s : S) :
    sur.Enters diary [] s (p.answered sur.note answer s).2 := by
  unfold Dialogue.Progress.answered
  rcases d.next p.step answer with ⟨notices, _ | _⟩
  · exact hdiary.notes notices s
  · exact hdiary.notes notices s

/-- A dialogue makes the request of its step, or none. -/
theorem advance_enters {σ α : Type} {d : Dialogue σ α} (p : d.Progress S)
    (hcall : ∀ c ∈ p.call, ∀ s, sur.Enters diary [] s (c.finish s).2) (timeout : Duration)
    (now : Nat) (s : S) :
    ∃ requests, (∀ c ∈ requests, c = .admin (d.request p.step)) ∧
      sur.Enters diary requests s (p.advance sur.admin sur.note timeout now s).2 := by
  unfold Dialogue.Progress.advance
  rcases h : p.call with _ | c
  · exact ⟨[.admin (d.request p.step)], fun c hc => List.mem_singleton.mp hc, hdiary.admin _ s⟩
  · have hf := hcall c h s
    have hnone : ∀ c ∈ ([] : List ClientCall), c = .admin (d.request p.step) :=
      fun c hc => absurd hc List.not_mem_nil
    refine ⟨[], hnone, ?_⟩
    dsimp only
    split
    · rcases hr : c.finish s with ⟨answer | message, s'⟩
      · rw [hr] at hf
        exact hf.after (answered_enters hdiary p answer s')
      · rw [hr] at hf
        exact hf
    · split
      · exact answered_enters hdiary p _ s
      · exact .refl sur diary s

/-- The provisioning goes on with requests, and ends with the closing of the client. -/
theorem advanceProvisioning_made (now : Nat) (st : LoopState S) (s : S) {spec : TopicSpec}
    {p : (Provisioning.provision spec).Progress S}
    (hcall : ∀ c ∈ p.call, ∀ s, sur.Enters diary [] s (c.finish s).2)
    (hpanic : ∀ c ∈ p.call, ∀ s message, (c.finish s).1 ≠ .panicked message)
    (htopic : setup.topic?.isSome) (hmade : ∀ c ∈ made, c.IsRequest) :
    ∃ more, sur.Enters diary more s (st.advanceProvisioning setup sur now spec p s).2 ∧
      (st.advanceProvisioning setup sur now spec p s).1.Made setup (made ++ more) := by
  obtain ⟨requests, hrequests, henters⟩ :=
    advance_enters hdiary p hcall setup.requestTimeout now s
  have hall : ∀ c ∈ made ++ requests, c.IsRequest := by
    intro c hc
    rcases List.mem_append.mp hc with hc | hc
    · exact hmade c hc
    · rw [hrequests c hc]
      exact Provisioning.isRequest_request spec p.step
  unfold LoopState.advanceProvisioning
  rcases hr : p.advance sur.admin sur.note setup.requestTimeout now s with
    ⟨p' | outcome | message, s'⟩
  · rw [hr] at henters
    exact ⟨requests, henters, htopic, hall⟩
  · rw [hr] at henters
    obtain ⟨hrelease, hprepared⟩ := beginRelease_made hdiary now st
      (sur.note (.provisioningFinished outcome) s') htopic hall
    refine ⟨_, (henters.before (hdiary.note _ s')).trans hrelease, ?_⟩
    rw [← List.append_assoc]
    exact hprepared
  · -- the client does not panic
    obtain ⟨c, hsome, -, hf⟩ := p.advance_panicked hr
    exact absurd hf (hpanic c hsome s message)

theorem finishRelease_enters {call : Call S (Except AdminFault Unit)}
    (hcall : ∀ s, sur.Enters diary [] s (call.finish s).2) (timeout : Duration)
    (now : Nat) (s : S) :
    sur.Enters diary [] s (Provisioning.finishRelease sur.note timeout now call s).2 := by
  have hf := hcall s
  unfold Provisioning.finishRelease
  split
  · rcases hr : call.finish s with ⟨answer | message, s'⟩
    · rw [hr] at hf
      exact hf.after (hdiary.note _ s')
    · rw [hr] at hf
      exact hf
  · exact hdiary.note _ s

/-- The loop goes on to the provisioning, if there is a topic, or to its work. -/
theorem starting_made (hphase : st.phase = .starting) :
    ∃ more, sur.Enters diary more s (st.step setup sur now s).2 ∧
      (st.step setup sur now s).1.Made setup more := by
  have hnote := hdiary.note (.loopStarting setup.interval) s
  unfold LoopState.step
  rw [hphase]
  rcases htopic : setup.topic? with _ | spec
  · have hnothing : Worked setup.topic? [] := Prepared.worked (by rw [htopic]; rfl)
    obtain ⟨work, henters, hworked⟩ := iterate_made hdiary setup now st _ hnothing
    exact ⟨work, hnote.after henters, hworked⟩
  · refine ⟨[], hnote, ?_, fun _ hc => absurd hc List.not_mem_nil⟩
    rw [htopic]
    rfl

/-- The provisioning goes on, or is interrupted and the client told to close. -/
theorem provisioning_made {spec : TopicSpec} {p : (Provisioning.provision spec).Progress S}
    (hphase : st.phase = .provisioning spec p)
    (hcall : ∀ c ∈ p.call, ∀ s, sur.Enters diary [] s (c.finish s).2)
    (hpanic : ∀ c ∈ p.call, ∀ s message, (c.finish s).1 ≠ .panicked message)
    (htopic : setup.topic?.isSome) (hmade : ∀ c ∈ made, c.IsRequest) :
    ∃ more, sur.Enters diary more s (st.step setup sur now s).2 ∧
      (st.step setup sur now s).1.Made setup (made ++ more) := by
  unfold LoopState.step
  rw [hphase]
  dsimp only
  split
  · have hfavours := hdiary.favoursCall s
    split
    · obtain ⟨more, henters, hmore⟩ := advanceProvisioning_made hdiary now st
        (sur.favoursCall s).2 hcall hpanic htopic hmade
      exact ⟨more, hfavours.after henters, hmore⟩
    · have hnote := hdiary.note .provisioningInterrupted (sur.favoursCall s).2
      obtain ⟨hrelease, hprepared⟩ := beginRelease_made hdiary now st
        (sur.note .provisioningInterrupted (sur.favoursCall s).2) htopic hmade
      exact ⟨_, (hfavours.after hnote).after hrelease, hprepared⟩
  · exact advanceProvisioning_made hdiary now st s hcall hpanic htopic hmade

/-- When the client has closed, or is given up, the work begins. -/
theorem releasing_made {call : Call S (Except AdminFault Unit)}
    (hphase : st.phase = .releasing call)
    (hcall : ∀ s, sur.Enters diary [] s (call.finish s).2)
    (hmade : Prepared setup.topic? made) :
    ∃ more, sur.Enters diary more s (st.step setup sur now s).2 ∧
      (st.step setup sur now s).1.Made setup (made ++ more) := by
  have hfinish := finishRelease_enters hdiary hcall Provisioning.closeTimeout now s
  unfold LoopState.step
  rw [hphase]
  dsimp only
  rcases hr : Provisioning.finishRelease sur.note Provisioning.closeTimeout now call s with
    ⟨_ | message, s'⟩ <;> rw [hr] at hfinish
  · obtain ⟨work, henters, hworked⟩ :=
      iterate_made hdiary setup now st s' (Prepared.worked hmade)
    exact ⟨work, hfinish.after henters, hworked⟩
  · exact ⟨[], hfinish, (List.append_nil made).symm ▸ Prepared.worked hmade⟩

/-- After a flush there is only the iteration to be finished. -/
theorem flushing_made {nowMs : Int64} {call : Call S (Except PublishFault Unit)}
    (hphase : st.phase = .flushing nowMs call)
    (hcall : ∀ s, sur.Enters diary [] s (call.finish s).2) (hmade : Worked setup.topic? made) :
    ∃ more, sur.Enters diary more s (st.step setup sur now s).2 ∧
      (st.step setup sur now s).1.Made setup (made ++ more) := by
  have hflushed := hcall s
  have hmore : Worked setup.topic? (made ++ []) := (List.append_nil made).symm ▸ hmade
  refine ⟨[], ?_⟩
  unfold LoopState.step
  rw [hphase]
  dsimp only
  split
  · rcases hf : call.finish s with ⟨answer | message, s'⟩ <;> rw [hf] at hflushed
    · have hnotes := hdiary.notes (LoopState.flushNotices (sur.cancelled s') answer) s'
      obtain ⟨henters, hworked⟩ := finishIteration_made hdiary now nowMs st _ hmore
      exact ⟨(hflushed.after hnotes).after henters, hworked⟩
    · exact ⟨hflushed, hmore⟩
  · obtain ⟨henters, hworked⟩ := finishIteration_made hdiary now nowMs st _ hmore
    exact ⟨(hdiary.note .flushInterrupted s).after henters, hworked⟩

/-- **A step goes on with the calls of the loop in their order.** -/
theorem step_made (hpanic : sur.NoPanic) (hcalls : st.Awaits (sur.calls setup now))
    (hmade : st.Made setup made) :
    ∃ more, sur.Enters diary more s (st.step setup sur now s).2 ∧
      (st.step setup sur now s).1.Made setup (made ++ more) := by
  have hstill : st.Made setup (made ++ []) := (List.append_nil made).symm ▸ hmade
  unfold LoopState.Awaits at hcalls
  unfold LoopState.Made at hmade
  rcases hphase : st.phase with _ | ⟨spec, p⟩ | call | ⟨nowMs, call⟩ | wake | _ | message <;>
    rw [hphase] at hcalls hmade
  · obtain rfl : made = [] := hmade
    exact starting_made hdiary hphase
  · obtain ⟨htopic, hrequests⟩ := hmade
    refine provisioning_made hdiary hphase (fun c hc => ?_) (fun c hc => ?_) htopic hrequests
    · obtain ⟨moment, s₁, -, rfl⟩ := hcalls c hc
      exact hdiary.administered _ s₁
    · obtain ⟨moment, s₁, -, rfl⟩ := hcalls c hc
      exact hpanic.admin _ s₁
  · obtain ⟨moment, s₁, -, rfl⟩ := hcalls
    exact releasing_made hdiary hphase (hdiary.administered _ s₁) hmade
  · obtain ⟨moment, s₁, -, rfl⟩ := hcalls
    exact flushing_made hdiary hphase (hdiary.flushed s₁) hmade
  · unfold LoopState.step
    rw [hphase]
    exact iterate_made hdiary setup now st s hmade
  · unfold LoopState.step
    rw [hphase]
    exact ⟨[], .refl sur diary s, hstill⟩
  · unfold LoopState.step
    rw [hphase]
    exact ⟨[], .refl sur diary s, hstill⟩

end Diary

end MetricFeed
