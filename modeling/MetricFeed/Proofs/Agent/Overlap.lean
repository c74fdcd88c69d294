/-
MetricFeed/Proofs/Agent/Overlap.lean

Closing a running agent from several sides at once.  Each caller goes through a closing of its own;
the callers, the turns of the loop and the passing of time are interleaved in any way
(`Overlapping`).  Only the first caller finds a loop to wait for.  The next one goes straight to the
channel, and whoever comes to a channel that is closed already returns at once.

Main result (`Overlapping.overlap`): however the callers are interleaved, the producer is told to
close at most once, and no caller returns before.  If no call begins while another is under way, it
is told when the loop is over, and no caller returns while it is being closed.  With calls that
overlap, both fail (`overlapping_closings_part`).
-/
import Mathlib.Data.List.Perm.Subperm
import MetricFeed.Proofs.Agent.Lifecycle

namespace MetricFeed

variable {S H : Type}

/-! ### Callers -/

/-- A call to close the agent: it waits somewhere in its closing, or has returned. -/
inductive Caller (S : Type)
  | waiting (c : Closing S)
  | returned (reply : Reply (Option LoopStats))

namespace Caller

/-- The call after a step of its closing. -/
def ofOnward : Closing.Onward S → Caller S
  | .inl c => .waiting c
  | .inr reply => .returned reply

/-- The call waits for the loop. -/
def IsJoining : Caller S → Prop
  | .waiting (.joining _ _) => True
  | .waiting (.releasing _ _) | .waiting (.closingChannel _ _) | .returned _ => False

/-- The call waits for the producer, which has been told to close. -/
def closesProducer : Caller S → Bool
  | .waiting (.closingChannel _ _) => true
  | .waiting (.joining _ _) | .waiting (.releasing _ _) | .returned _ => false

def HasReturned : Caller S → Prop
  | .returned _ => True
  | .waiting _ => False

/-- If the call waits for a loop, this is the loop of the task `id`. -/
def JoinsOnly (id : Nat) : Caller S → Prop
  | .waiting (.joining task _) => task = id
  | .waiting (.releasing _ _) | .waiting (.closingChannel _ _) | .returned _ => True

/-- The call does not wait for an administrative client, and for the producer only to close. -/
def IsSound (sur : Surroundings S H) : Caller S → Prop
  | .waiting (.joining _ _) | .returned _ => True
  | .waiting (.releasing _ _) => False
  | .waiting (.closingChannel _ call) =>
    ∃ s, call.finish = (sur.channel.producer.close Channel.closeTimeout s).1.finish

theorem closesProducer_of_isJoining {c : Caller S} (h : c.IsJoining) :
    c.closesProducer = false := by
  rcases c with (_ | _ | _) | _
  · rfl
  · exact h.elim
  · exact h.elim
  · exact h.elim

theorem not_isJoining_of_hasReturned {c : Caller S} (h : c.HasReturned) : ¬ c.IsJoining := by
  rcases c with c | reply
  · exact h.elim
  · exact not_false

end Caller

namespace AgentSystem

/-- How often the producer has been told to close. -/
def producerClosings (diary : S → List ClientCall) (s : S) : Nat :=
  (diary s).countP ClientCall.closesProducer

/-- What becomes of the running agent `sys₁` and of the calls to close it, in the order in which
they have begun.  A call may begin only if those before it are as `mayCall` says. -/
inductive Overlapping (diary : S → List ClientCall) (mayCall : List (Caller S) → Prop)
    (sys₁ : AgentSystem S H) : List (Caller S) → AgentSystem S H → Prop
  | running : Overlapping diary mayCall sys₁ [] sys₁
  | call {callers : List (Caller S)} {sys : AgentSystem S H} :
    Overlapping diary mayCall sys₁ callers sys → mayCall callers →
    Overlapping diary mayCall sys₁ (callers ++ [.ofOnward (Closing.start sys).1])
      (Closing.start sys).2
  /-- A call whose wait is over goes on to its next wait, or returns. -/
  | goOn {earlier later : List (Caller S)} {c : Closing S} {sys : AgentSystem S H} :
    Overlapping diary mayCall sys₁ (earlier ++ .waiting c :: later) sys → c.isDue sys = true →
    Overlapping diary mayCall sys₁ (earlier ++ .ofOnward (c.step sys).1 :: later) (c.step sys).2
  /-- A task takes a step of its turn, or ends its turn. -/
  | turn {callers : List (Caller S)} {sys : AgentSystem S H} {t : Task S H}
    {rest : List (Task S H)} : Overlapping diary mayCall sys₁ callers sys →
    sys.scheduler.queue = t :: rest →
    Overlapping diary mayCall sys₁ callers { sys with scheduler := sys.scheduler.advance t rest }
  | pass {callers : List (Caller S)} {sys : AgentSystem S H} (wake : Nat) :
    Overlapping diary mayCall sys₁ callers sys →
    Overlapping diary mayCall sys₁ callers { sys with scheduler := sys.scheduler.jump wake }
  /-- Something is done to the surroundings that is no call of a client. -/
  | other {callers : List (Caller S)} {sys : AgentSystem S H} {s : S} :
    Overlapping diary mayCall sys₁ callers sys →
    sys.agent.surroundings.Enters diary [] sys.scheduler.state s →
    Overlapping diary mayCall sys₁ callers { sys with scheduler := sys.scheduler.setState s }

/-! ### The only loop -/

/-- The loop of the task `id` goes on with its calls in their order, or is over; no other loop
goes on. -/
def Loops (id : Nat) (sys : AgentSystem S H) : Prop :=
  sys.scheduler.Finished ∨ ∃ setup st made,
    sys.scheduler.Runs id setup sys.agent.surroundings st ∧ st.Made setup made

section Loops

variable {a : Agent S H} {sch : Scheduler S H} {id : Nat}

theorem Loops.runsOnly (h : Loops id ⟨a, sch⟩) : sch.RunsOnly id a.surroundings :=
  h.imp_right fun ⟨setup, st, _, hruns, _⟩ => ⟨setup, st, hruns⟩

theorem Loops.setState (h : Loops id ⟨a, sch⟩) (s : S) : Loops id ⟨a, sch.setState s⟩ :=
  h.imp (·.setState s) fun ⟨setup, st, made, hruns, hmade⟩ =>
    ⟨setup, st, made, hruns.setState s, hmade⟩

theorem Loops.jump (h : Loops id ⟨a, sch⟩) (wake : Nat) : Loops id ⟨a, sch.jump wake⟩ :=
  h.imp (·.jump wake) fun ⟨setup, st, made, hruns, hmade⟩ =>
    ⟨setup, st, made, hruns.jump wake, hmade⟩

/-- The loop does not close the producer. -/
theorem Loops.turn {diary : S → List ClientCall} (h : Loops id ⟨a, sch⟩)
    (hdiary : a.KeepsDiary diary) (hpanic : a.surroundings.NoPanic) {t : Task S H}
    {rest : List (Task S H)} (hqueue : sch.queue = t :: rest) :
    Loops id ⟨a, sch.advance t rest⟩ ∧ ∃ more, (∀ c ∈ more, c.closesProducer = false) ∧
      a.surroundings.Enters diary more sch.state (sch.advance t rest).state := by
  rcases h with hfinished | ⟨setup, st, made, hruns, hmade⟩
  · obtain ⟨hfinished', -, hstate, -⟩ := hfinished.advance hqueue
    exact ⟨.inl hfinished', [], fun _ hc => absurd hc List.not_mem_nil, hstate ▸ .refl _ _ _⟩
  · obtain ⟨st', more, hruns', henters, hmade', -⟩ :=
      hruns.turn_made hdiary.toKeepsDiary hpanic hmade hqueue
    exact ⟨.inr ⟨setup, st', _, hruns', hmade'⟩, more,
      fun c hc => hmade'.orderly.closesProducer c (List.mem_append_right _ hc), henters⟩

end Loops

/-! ### What callers share -/

/-- What holds of an agent and of any of its callers, when the producer had been told to close
`before` times before the first of them. -/
structure Shared (diary : S → List ClientCall) (before : Nat) (callers : List (Caller S))
    (sys : AgentSystem S H) : Prop where
  keeps : sys.agent.KeepsDiary diary
  noPanic : sys.agent.surroundings.NoPanic
  spare : sys.agent.spareTopic? = none
  loop : ∃ id, sys.Loops id ∧ (∀ task ∈ sys.agent.runner?, task = id) ∧
    ∀ c ∈ callers, c.JoinsOnly id
  sound : ∀ c ∈ callers, c.IsSound sys.agent.surroundings
  once : producerClosings diary sys.scheduler.state =
    before + (sys.agent.surroundings.channel.isClosed sys.scheduler.state).toNat
  joining : sys.agent.surroundings.channel.isClosed sys.scheduler.state = false →
    ∀ c ∈ callers, c.IsJoining
  single : callers.countP Caller.closesProducer ≤
    (sys.agent.surroundings.channel.isClosed sys.scheduler.state).toNat

section Shared

variable {diary : S → List ClientCall} {before : Nat} {callers others : List (Caller S)}
variable {a : Agent S H} {sch sch' : Scheduler S H} {sys : AgentSystem S H}

/-- The order of the callers is nothing to what they share, and some may be left out. -/
theorem Shared.subperm (h : Shared diary before callers sys) (hsub : others.Subperm callers) :
    Shared diary before others sys := by
  obtain ⟨id, hloop, hrunner, hjoins⟩ := h.loop
  exact
    { keeps := h.keeps
      noPanic := h.noPanic
      spare := h.spare
      loop := ⟨id, hloop, hrunner, fun c hc => hjoins c (hsub.subset hc)⟩
      sound := fun c hc => h.sound c (hsub.subset hc)
      once := h.once
      joining := fun hopen c hc => h.joining hopen c (hsub.subset hc)
      single := Nat.le_trans (hsub.countP_le _) h.single }

/-- Whatever is done without closing the producer is nothing to what they share. -/
theorem Shared.goOn (h : Shared diary before callers ⟨a, sch⟩) {made : List ClientCall}
    (hdiary : diary sch'.state = diary sch.state ++ made)
    (hmade : ∀ c ∈ made, c.closesProducer = false)
    (hclosed : a.surroundings.channel.isClosed sch'.state =
      a.surroundings.channel.isClosed sch.state)
    (hloops : ∀ id, Loops id ⟨a, sch⟩ → Loops id ⟨a, sch'⟩) :
    Shared diary before callers ⟨a, sch'⟩ := by
  obtain ⟨id, hloop, hrunner, hjoins⟩ := h.loop
  have hnone : made.countP ClientCall.closesProducer = 0 :=
    List.countP_eq_zero.mpr fun c hc => Bool.eq_false_iff.mp (hmade c hc)
  have honce : producerClosings diary sch'.state = producerClosings diary sch.state := by
    unfold producerClosings
    rw [hdiary, List.countP_append, hnone, Nat.add_zero]
  exact
    { keeps := h.keeps
      noPanic := h.noPanic
      spare := h.spare
      loop := ⟨id, hloops id hloop, hrunner, hjoins⟩
      sound := h.sound
      once := honce.trans (h.once.trans (congrArg (before + ·.toNat) hclosed.symm))
      joining := fun hopen => h.joining (hclosed.symm.trans hopen)
      single := Nat.le_trans h.single (Nat.le_of_eq (congrArg Bool.toNat hclosed.symm)) }

theorem Shared.setState (h : Shared diary before callers ⟨a, sch⟩) {s : S}
    (hdiary : diary s = diary sch.state)
    (hclosed : a.surroundings.channel.isClosed s = a.surroundings.channel.isClosed sch.state) :
    Shared diary before callers ⟨a, sch.setState s⟩ :=
  h.goOn (hdiary.trans (List.append_nil _).symm) (fun _ hc => absurd hc List.not_mem_nil) hclosed
    fun _ hloop => hloop.setState s

theorem Shared.other (h : Shared diary before callers ⟨a, sch⟩) {s : S}
    (henters : a.surroundings.Enters diary [] sch.state s) :
    Shared diary before callers ⟨a, sch.setState s⟩ :=
  h.setState (henters.diary.trans (List.append_nil _)) henters.isClosed

theorem Shared.jump (h : Shared diary before callers ⟨a, sch⟩) (wake : Nat) :
    Shared diary before callers ⟨a, sch.jump wake⟩ := by
  have hstate := sch.jump_state wake
  exact h.goOn ((congrArg diary hstate).trans (List.append_nil _).symm)
    (fun _ hc => absurd hc List.not_mem_nil) (congrArg _ hstate) fun _ hloop => hloop.jump wake

theorem Shared.turn (h : Shared diary before callers ⟨a, sch⟩) {t : Task S H}
    {rest : List (Task S H)} (hqueue : sch.queue = t :: rest) :
    Shared diary before callers ⟨a, sch.advance t rest⟩ := by
  obtain ⟨id, hloop, -, -⟩ := h.loop
  obtain ⟨-, more, hmore, henters⟩ := hloop.turn h.keeps h.noPanic hqueue
  exact h.goOn henters.diary hmore henters.isClosed fun id hloop =>
    (hloop.turn h.keeps h.noPanic hqueue).1

/-- While the channel is open, all callers wait for the loop. -/
theorem Shared.isClosed (h : Shared diary before callers sys) {c : Caller S} (hc : c ∈ callers)
    (hpasses : ¬ c.IsJoining) :
    sys.agent.surroundings.channel.isClosed sys.scheduler.state = true := by
  by_contra hopen
  exact hpasses (h.joining (Bool.eq_false_iff.mpr hopen) c hc)

/-- When the channel has been closed, a further caller may return. -/
theorem Shared.returned (h : Shared diary before others sys)
    (hclosed : sys.agent.surroundings.channel.isClosed sys.scheduler.state = true)
    (reply : Reply (Option LoopStats)) : Shared diary before (.returned reply :: others) sys := by
  obtain ⟨id, hloop, hrunner, hjoins⟩ := h.loop
  exact { h with
    loop := ⟨id, hloop, hrunner, List.forall_mem_cons.mpr ⟨trivial, hjoins⟩⟩
    sound := List.forall_mem_cons.mpr ⟨trivial, h.sound⟩
    joining := fun hopen => absurd (hclosed.symm.trans hopen) (by decide)
    single := h.single }

/-- While it is open, a further caller may close the producer. -/
theorem Shared.closes (h : Shared diary before others ⟨a, sch⟩)
    (hopen : a.surroundings.channel.isClosed sch.state = false) {s : S}
    (hdiary : diary s = diary sch.state ++ [.close])
    (hmarked : a.surroundings.channel.isClosed s = true)
    {call : Call S (Except PublishFault Unit)}
    (hcall : ∃ s₀, call.finish =
      (a.surroundings.channel.producer.close Channel.closeTimeout s₀).1.finish)
    (stats : Option LoopStats) :
    Shared diary before (.waiting (.closingChannel stats call) :: others) ⟨a, sch.setState s⟩ := by
  obtain ⟨id, hloop, hrunner, hjoins⟩ := h.loop
  have honce : producerClosings diary s = before + 1 := by
    have hbefore : producerClosings diary sch.state = before := by
      have := h.once
      rwa [hopen] at this
    unfold producerClosings at hbefore ⊢
    rw [hdiary, List.countP_append, hbefore]
    rfl
  have hnone : others.countP Caller.closesProducer = 0 :=
    List.countP_eq_zero.mpr fun c hc =>
      Bool.eq_false_iff.mp (Caller.closesProducer_of_isJoining (h.joining hopen c hc))
  exact
    { keeps := h.keeps
      noPanic := h.noPanic
      spare := h.spare
      loop := ⟨id, hloop.setState s, hrunner, List.forall_mem_cons.mpr ⟨trivial, hjoins⟩⟩
      sound := List.forall_mem_cons.mpr ⟨hcall, h.sound⟩
      once := honce.trans (congrArg (before + ·.toNat) hmarked.symm)
      joining := fun hopen => absurd (hmarked.symm.trans hopen) (by decide)
      single := by
        show _ ≤ (a.surroundings.channel.isClosed s).toNat
        rw [hmarked, List.countP_cons, hnone]
        exact Nat.le_refl 1 }

/-! #### A caller that does not wait for the loop -/

/-- A further caller, whose closing goes on so from `sys`, does not wait for the loop, and finds or
leaves the channel closed. -/
structure Passes (diary : S → List ClientCall) (before : Nat) (others : List (Caller S))
    (sys : AgentSystem S H) (onward : Closing.Onward S × AgentSystem S H) : Prop where
  shared : Shared diary before (.ofOnward onward.1 :: others) onward.2
  passes : ¬ (Caller.ofOnward onward.1).IsJoining
  runner : onward.2.agent.runner? = sys.agent.runner?
  isClosed : onward.2.agent.surroundings.channel.isClosed onward.2.scheduler.state = true
  finished : sys.scheduler.Finished → onward.2.scheduler.Finished
  atOnce : sys.agent.surroundings.channel.isClosed sys.scheduler.state = true →
    (Caller.ofOnward onward.1).HasReturned

/-- The caller comes to the channel.  If it is open, all the others still wait for the loop, so this
one alone closes the producer. -/
theorem Shared.toChannel (h : Shared diary before others ⟨a, sch⟩) (stats : Option LoopStats) :
    Passes diary before others ⟨a, sch⟩ (Closing.toChannel stats ⟨a, sch⟩) := by
  rcases hclosed : a.surroundings.channel.isClosed sch.state
  · obtain ⟨s₀, s', htold, hdiary, hmarked, -⟩ :=
      Closing.toChannel_of_open h.keeps hclosed stats
    rw [htold]
    exact ⟨h.closes hclosed hdiary hmarked ⟨s₀, rfl⟩ stats, not_false, rfl, hmarked,
      fun hfinished => hfinished.setState s',
      fun hshut => absurd (hclosed.symm.trans hshut) (by decide)⟩
  · rw [Closing.toChannel_of_closed hclosed stats]
    exact ⟨(h.setState (s := sch.state) rfl rfl).returned hclosed _, not_false, rfl, hclosed,
      fun hfinished => hfinished.setState _, fun _ => trivial⟩

/-- The callers share as much when the loop has been asked to stop. -/
theorem Shared.told (h : Shared diary before callers sys) :
    Shared diary before callers
      { sys with
        scheduler := sys.scheduler.modify fun s =>
          sys.agent.cancel (sys.agent.surroundings.note .closingAgent s) } := by
  obtain ⟨hcalls, hclosed, -⟩ := told_state h.keeps sys.scheduler.state
  exact h.setState hcalls hclosed

/-- Without a loop to wait for, a new caller goes straight to the channel. -/
theorem Shared.start_of_none (h : Shared diary before callers sys)
    (hrunner : sys.agent.runner? = none) :
    Passes diary before callers sys (Closing.start sys) := by
  obtain ⟨-, hclosed, -⟩ := told_state h.keeps sys.scheduler.state
  have hpasses := h.told.toChannel none
  rw [AgentSystem.start_of_none hrunner, Closing.toRelease_of_none h.told.spare]
  exact
    { shared := hpasses.shared
      passes := hpasses.passes
      runner := hpasses.runner
      isClosed := hpasses.isClosed
      finished := fun hfinished => hpasses.finished (hfinished.setState _)
      atOnce := fun hshut => hpasses.atOnce (hclosed.trans hshut) }

/-- A caller that has waited for the loop, or for the producer, goes on. -/
theorem Shared.step {c : Closing S} (h : Shared diary before (.waiting c :: others) ⟨a, sch⟩) :
    Passes diary before others ⟨a, sch⟩ (c.step ⟨a, sch⟩) ∧
      ((Caller.waiting c).IsJoining → (c.step ⟨a, sch⟩).2.scheduler.Finished) := by
  have hothers : Shared diary before others ⟨a, sch⟩ :=
    h.subperm (List.sublist_cons_self _ _).subperm
  rcases c with ⟨task, deadline⟩ | ⟨stats, call⟩ | ⟨stats, call⟩
  · obtain ⟨id, hloop, -, hjoins⟩ := h.loop
    obtain rfl : task = id := hjoins _ List.mem_cons_self
    obtain ⟨stats, sch', hstep, hfinished, henters, -⟩ :=
      Closing.step_joining h.keeps hloop.runsOnly deadline
    have hothers' : Shared diary before others ⟨a, sch'⟩ :=
      hothers.goOn henters.diary (fun _ hc => absurd hc List.not_mem_nil) henters.isClosed
        fun _ _ => .inl hfinished
    have hpasses := hothers'.toChannel stats
    have hspare : (⟨a, sch'⟩ : AgentSystem S H).agent.spareTopic? = none := h.spare
    rw [hstep, Closing.toRelease_of_none hspare]
    exact ⟨{ hpasses with
      finished := fun _ => hpasses.finished hfinished
      atOnce := fun hshut => hpasses.atOnce (henters.isClosed.trans hshut) },
      fun _ => hpasses.finished hfinished⟩
  · exact (h.sound _ List.mem_cons_self).elim
  · obtain ⟨s₀, hfinish⟩ := h.sound _ List.mem_cons_self
    obtain ⟨s', hstep, henters⟩ := Closing.step_closingChannel h.keeps sch call
      (hfinish ▸ h.keeps.closed Channel.closeTimeout s₀)
      (hfinish ▸ h.noPanic.close Channel.closeTimeout s₀) stats
    have hclosed : a.surroundings.channel.isClosed s' = true :=
      henters.isClosed.trans (h.isClosed List.mem_cons_self not_false)
    rw [hstep]
    exact ⟨⟨(hothers.other henters).returned hclosed _, not_false, rfl, hclosed,
      fun hfinished => hfinished.setState s', fun _ => trivial⟩, False.elim⟩

/-- The first caller takes the loop over, and waits for it. -/
theorem Shared.start_of_some (h : Shared diary before callers sys) {task : Nat}
    (hrunner : sys.agent.runner? = some task) (deadline : Nat) :
    Shared diary before (.waiting (.joining task deadline) :: callers) sys.told := by
  have htold := h.told
  obtain ⟨id, hloop, hsame, hjoins⟩ := htold.loop
  exact
    { keeps := htold.keeps.handOver sys.agent.spareTopic? none
      noPanic := htold.noPanic
      spare := htold.spare
      loop := ⟨id, hloop, fun _ hnone => absurd hnone (Option.not_mem_none _),
        List.forall_mem_cons.mpr ⟨hsame task hrunner, hjoins⟩⟩
      sound := List.forall_mem_cons.mpr ⟨trivial, htold.sound⟩
      once := htold.once
      joining := fun hopen => List.forall_mem_cons.mpr ⟨trivial, htold.joining hopen⟩
      single := htold.single }

end Shared

/-! ### Interleavings -/

/-- The invariant of callers that are interleaved.  As soon as there is a caller, one waits for the
loop or it is over.  If no call begins while another is under way, one at most has not returned, and
while this one waits for the loop the channel is open. -/
structure Interleaved (diary : S → List ClientCall) (mayCall : List (Caller S) → Prop)
    (before : Nat) (callers : List (Caller S)) (sys : AgentSystem S H) : Prop
    extends Shared diary before callers sys where
  waited : callers = [] ∧ sys.agent.runner?.isSome = true ∧
      sys.agent.surroundings.channel.isClosed sys.scheduler.state = false ∨
    callers ≠ [] ∧ sys.agent.runner? = none ∧
      ((∃ c ∈ callers, c.IsJoining) ∨ sys.scheduler.Finished)
  apart : (∀ callers, mayCall callers → ∀ c ∈ callers, c.HasReturned) →
    (∀ c ∈ callers, c.HasReturned) ∨ ∃ c, callers = [c] ∧ (c.IsJoining →
      sys.agent.surroundings.channel.isClosed sys.scheduler.state = false)

section Interleaved

variable {diary : S → List ClientCall} {mayCall : List (Caller S) → Prop} {before : Nat}
variable {callers : List (Caller S)} {a : Agent S H} {sch sch' : Scheduler S H}
variable {sys sys₀ sys₁ : AgentSystem S H}

theorem Interleaved.quiet (h : Interleaved diary mayCall before callers ⟨a, sch⟩)
    (hshared : Shared diary before callers ⟨a, sch'⟩)
    (hclosed : a.surroundings.channel.isClosed sch'.state =
      a.surroundings.channel.isClosed sch.state)
    (hfinished : sch.Finished → sch'.Finished) :
    Interleaved diary mayCall before callers ⟨a, sch'⟩ where
  toShared := hshared
  waited := h.waited.imp (fun ⟨hnone, hrunner, hopen⟩ => ⟨hnone, hrunner, hclosed.trans hopen⟩)
    fun ⟨hsome, hrunner, hwaited⟩ => ⟨hsome, hrunner, hwaited.imp_right hfinished⟩
  apart := fun hmay => (h.apart hmay).imp_right fun ⟨c, hone, hopen⟩ =>
    ⟨c, hone, fun hjoins => hclosed.trans (hopen hjoins)⟩

theorem Interleaved.turn (h : Interleaved diary mayCall before callers ⟨a, sch⟩) {t : Task S H}
    {rest : List (Task S H)} (hqueue : sch.queue = t :: rest) :
    Interleaved diary mayCall before callers ⟨a, sch.advance t rest⟩ := by
  obtain ⟨id, hloop, -, -⟩ := h.loop
  obtain ⟨-, more, -, henters⟩ := hloop.turn h.keeps h.noPanic hqueue
  exact h.quiet (h.toShared.turn hqueue) henters.isClosed fun hfinished =>
    (hfinished.advance hqueue).1

/-- A call begins. -/
theorem Interleaved.call (h : Interleaved diary mayCall before callers sys)
    (hmay : mayCall callers) :
    Interleaved diary mayCall before (callers ++ [.ofOnward (Closing.start sys).1])
      (Closing.start sys).2 := by
  rcases h.waited with ⟨rfl, hrunner, hopen⟩ | ⟨hsome, hrunner, hwaited⟩
  · -- it is the first, and waits for the loop
    obtain ⟨task, htask⟩ := Option.isSome_iff_exists.mp hrunner
    obtain ⟨-, hclosed, -⟩ := told_state h.keeps sys.scheduler.state
    rw [start_eq htask]
    exact
      { toShared := h.toShared.start_of_some htask _
        waited := .inr ⟨List.cons_ne_nil _ _, rfl, .inl ⟨_, List.mem_singleton_self _, trivial⟩⟩
        apart := fun _ => .inr ⟨_, rfl, fun _ => hclosed.trans hopen⟩ }
  · have hpasses := h.toShared.start_of_none hrunner
    refine
      { toShared := hpasses.shared.subperm (List.perm_append_singleton _ callers).subperm
        waited := .inr ⟨List.append_ne_nil_of_left_ne_nil hsome _, hpasses.runner.trans hrunner,
          hwaited.imp (fun ⟨c, hc, hjoins⟩ => ⟨c, List.mem_append_left _ hc, hjoins⟩)
            hpasses.finished⟩
        apart := fun hapart => .inl ?_ }
    -- all others have returned, so the channel has been closed
    have hreturned := hapart callers hmay
    obtain ⟨c, hc⟩ := List.exists_mem_of_ne_nil callers hsome
    have hclosed := h.isClosed hc (Caller.not_isJoining_of_hasReturned (hreturned c hc))
    exact List.forall_mem_append.mpr
      ⟨hreturned, List.forall_mem_singleton.mpr (hpasses.atOnce hclosed)⟩

/-- A call goes on. -/
theorem Interleaved.goOn {earlier later : List (Caller S)} {c : Closing S}
    (h : Interleaved diary mayCall before (earlier ++ .waiting c :: later) sys) :
    Interleaved diary mayCall before (earlier ++ .ofOnward (c.step sys).1 :: later)
      (c.step sys).2 := by
  have hshared : Shared diary before (.waiting c :: (earlier ++ later)) sys :=
    h.toShared.subperm List.perm_middle.symm.subperm
  obtain ⟨hpasses, hover⟩ := hshared.step
  refine
    { toShared := hpasses.shared.subperm List.perm_middle.subperm
      waited := .inr ⟨List.append_ne_nil_of_right_ne_nil _ (List.cons_ne_nil _ _), ?_, ?_⟩
      apart := fun hapart => ?_ }
  · rcases h.waited with ⟨hnone, -⟩ | ⟨-, hrunner, -⟩
    · exact absurd hnone (List.append_ne_nil_of_right_ne_nil _ (List.cons_ne_nil _ _))
    · exact hpasses.runner.trans hrunner
  · rcases h.waited with ⟨hnone, -⟩ | ⟨-, -, ⟨c', hc', hjoins⟩ | hfinished⟩
    · exact absurd hnone (List.append_ne_nil_of_right_ne_nil _ (List.cons_ne_nil _ _))
    · -- the call that waits for the loop is this one, or still waits
      rcases List.mem_append.mp hc' with hc' | hc'
      · exact .inl ⟨c', List.mem_append_left _ hc', hjoins⟩
      · rcases List.mem_cons.mp hc' with rfl | hc'
        · exact .inr (hover hjoins)
        · exact .inl ⟨c', List.mem_append_right _ (List.mem_cons_of_mem _ hc'), hjoins⟩
    · exact .inr (hpasses.finished hfinished)
  · rcases h.apart hapart with hreturned | ⟨c', hone, -⟩
    · exact (hreturned _ (List.mem_append_right _ List.mem_cons_self)).elim
    · obtain ⟨rfl, hone'⟩ | ⟨-, hnil⟩ := List.append_eq_singleton_iff.mp hone
      · obtain ⟨-, rfl⟩ := List.cons.inj hone'
        exact .inr ⟨_, rfl, fun hjoins => absurd hjoins hpasses.passes⟩
      · cases hnil

/-- A running agent that nobody closes yet. -/
theorem Busy.interleaved {calls : List ClientCall} {topic? : Option TopicSpec} {loops : Nat}
    (h : sys.Busy diary calls topic? loops) :
    Interleaved diary mayCall (producerClosings diary sys.scheduler.state) [] sys := by
  obtain ⟨id, setup, st, made, hloop, -, hmade, -⟩ := h.loop
  refine
    { keeps := h.keeps
      noPanic := h.noPanic
      spare := hloop.spare
      loop := ⟨id, .inr ⟨setup, st, made, hloop.runs, hmade⟩, fun task htask => ?_, nofun⟩
      sound := nofun
      once := by rw [h.isOpen]; rfl
      joining := nofun
      single := Nat.zero_le _
      waited := .inl ⟨rfl, h.isRunning, h.isOpen⟩
      apart := fun _ => .inl nofun }
  exact Option.some.inj ((Option.mem_def.mp htask).symm.trans hloop.runner)

/-- **However calls are interleaved, with each other and with the loop.** -/
theorem Overlapping.interleaved {calls : List ClientCall} {topic? : Option TopicSpec} {loops : Nat}
    (hbusy : sys₁.Busy diary calls topic? loops)
    (h : Overlapping diary mayCall sys₁ callers sys) :
    Interleaved diary mayCall (producerClosings diary sys₁.scheduler.state) callers sys := by
  induction h with
  | running => exact hbusy.interleaved
  | call _ hmay ih => exact ih.call hmay
  | goOn _ _ ih => exact ih.goOn
  | turn _ hqueue ih => exact ih.turn hqueue
  | pass wake _ ih =>
    exact ih.quiet (ih.toShared.jump wake) (congrArg _ (Scheduler.jump_state _ _)) (·.jump wake)
  | other _ henters ih =>
    exact ih.quiet (ih.toShared.other henters) henters.isClosed (·.setState _)

/-! ### What can be relied on -/

/-- The producer has been told to close since the agent was `sys₁`. -/
def ToldProducer (diary : S → List ClientCall) (sys₁ sys : AgentSystem S H) : Prop :=
  producerClosings diary sys₁.scheduler.state < producerClosings diary sys.scheduler.state

/-- What holds of the running agent `sys₁` and of the calls to close it, when it has become `sys`. -/
structure Overlap (diary : S → List ClientCall) (mayCall : List (Caller S) → Prop)
    (sys₁ : AgentSystem S H) (callers : List (Caller S)) (sys : AgentSystem S H) : Prop where
  /-- The producer is told to close at most once. -/
  once : producerClosings diary sys.scheduler.state ≤
    producerClosings diary sys₁.scheduler.state + 1
  /-- When it has been told, the loop is over, or a call still waits for it. -/
  loop : ToldProducer diary sys₁ sys →
    (∀ t ∈ sys.scheduler.tasks, t.loop.HasEnded) ∨ ∃ c ∈ callers, c.IsJoining
  /-- No call returns before it has been told. -/
  returns : (∃ c ∈ callers, c.HasReturned) → ToldProducer diary sys₁ sys
  /-- One call at most waits for it. -/
  single : callers.countP Caller.closesProducer ≤ 1
  /-- If no call begins while another is under way, it is told only when the loop is over, and no
  call returns while it is waited for. -/
  apart : (∀ callers, mayCall callers → ∀ c ∈ callers, c.HasReturned) →
    (ToldProducer diary sys₁ sys → ∀ t ∈ sys.scheduler.tasks, t.loop.HasEnded) ∧
      ((∃ c ∈ callers, c.HasReturned) → ∀ c ∈ callers, c.closesProducer = false)

/-- The channel is marked as closed exactly when the producer has been told. -/
theorem Shared.told_iff
    (h : Shared diary (producerClosings diary sys₁.scheduler.state) callers sys) :
    ToldProducer diary sys₁ sys ↔
      sys.agent.surroundings.channel.isClosed sys.scheduler.state = true := by
  unfold ToldProducer
  rw [h.once]
  rcases sys.agent.surroundings.channel.isClosed sys.scheduler.state <;> simp

theorem Interleaved.loop_over
    (h : Interleaved diary mayCall (producerClosings diary sys₁.scheduler.state) callers sys)
    (htold : ToldProducer diary sys₁ sys) :
    (∃ c ∈ callers, c.IsJoining) ∨ sys.scheduler.Finished := by
  rcases h.waited with ⟨-, -, hopen⟩ | ⟨-, -, hwaited⟩
  · exact absurd (hopen.symm.trans (h.told_iff.mp htold)) (by decide)
  · exact hwaited

/-- **Closing a running agent from several sides at once.**  The producer is told to close at most
once, and no call returns before.  It may be told while the loop goes on, but only while another
call waits for the loop; and calls that do not overlap wait for the loop and for the producer. -/
theorem Overlapping.overlap (hconf : sys₀.Configured) (hdiary : sys₀.agent.KeepsDiary diary)
    (hpanic : sys₀.agent.surroundings.NoPanic) (hosted : Hosted diary sys₀ [] sys₁)
    (hrunning : sys₁.agent.isRunning = true) (h : Overlapping diary mayCall sys₁ callers sys) :
    Overlap diary mayCall sys₁ callers sys := by
  have hbusy : sys₁.Busy diary (diary sys₀.scheduler.state) sys₀.agent.spareTopic?
      sys₀.scheduler.nextId := by
    rcases (hosted.lives hconf hdiary hpanic).unclosed rfl with hfresh | hbusy
    · unfold Agent.isRunning at hrunning
      rw [hfresh.configured.runner] at hrunning
      cases hrunning
    · exact hbusy
  have hinv := h.interleaved hbusy
  have hreturns : (∃ c ∈ callers, c.HasReturned) → ToldProducer diary sys₁ sys := by
    rintro ⟨c, hc, hreturned⟩
    exact hinv.told_iff.mpr
      (hinv.isClosed hc (Caller.not_isJoining_of_hasReturned hreturned))
  refine ⟨?_, fun htold => ?_, hreturns, Nat.le_trans hinv.single (Bool.toNat_le _), fun hapart =>
    ⟨fun htold => ?_, ?_⟩⟩
  · rw [hinv.once]
    exact Nat.add_le_add_left (Bool.toNat_le _) _
  · exact (hinv.loop_over htold).symm.imp_left (·.hasEnded)
  · -- a call that waits for the loop is alone, and the channel is open
    rcases hinv.loop_over htold with ⟨c, hc, hjoins⟩ | hfinished
    · rcases hinv.apart hapart with hreturned | ⟨c', rfl, hopen⟩
      · exact absurd hjoins (Caller.not_isJoining_of_hasReturned (hreturned c hc))
      · obtain rfl := List.mem_singleton.mp hc
        exact absurd ((hopen hjoins).symm.trans (hinv.told_iff.mp htold)) (by decide)
    · exact hfinished.hasEnded
  · rintro ⟨c, hc, hreturned⟩ c' hc'
    have hidle : c'.HasReturned := by
      rcases hinv.apart hapart with hall | ⟨c'', rfl, -⟩
      · exact hall c' hc'
      · rwa [List.mem_singleton.mp hc', ← List.mem_singleton.mp hc]
    rcases c' with _ | reply
    · exact hidle.elim
    · rfl

end Interleaved

end AgentSystem

/-! ### Two calls at once -/

/-- An agent whose clients never answer and that has no topic to provision, so that its loop stops
as soon as it is told to. -/
def AgentSystem.unprovisioning : AgentSystem Watched Empty :=
  { AgentSystem.watched with agent := { AgentSystem.watched.agent with spareTopic? := none } }

theorem AgentSystem.configured_unprovisioning : AgentSystem.unprovisioning.Configured :=
  ⟨rfl, rfl, rfl, rfl, Nat.dvd_zero _⟩

theorem AgentSystem.keepsDiary_unprovisioning :
    AgentSystem.unprovisioning.agent.KeepsDiary Watched.calls :=
  AgentSystem.keepsDiary_watched.handOver none none

/-- The agent with its loop started, which has not taken a turn. -/
def AgentSystem.unprovisioned : AgentSystem Watched Empty :=
  ⟨(AgentSystem.unprovisioning.agent.init [] AgentSystem.unprovisioning.scheduler).1,
    (AgentSystem.unprovisioning.agent.init [] AgentSystem.unprovisioning.scheduler).2⟩

theorem AgentSystem.hosted_unprovisioned :
    AgentSystem.Hosted Watched.calls .unprovisioning [] .unprovisioned :=
  .init [] .configured rfl

/-- The agent is closed by one call: the loop ends, and then the producer is told to close. -/
theorem overlap_of_unprovisioned :
    ∃ callers sys, AgentSystem.Hosted Watched.calls .unprovisioning [] .unprovisioned ∧
      AgentSystem.Overlapping Watched.calls (fun callers => ∀ c ∈ callers, c.HasReturned)
        .unprovisioned callers sys ∧
      AgentSystem.ToldProducer Watched.calls .unprovisioned sys ∧
      ∀ t ∈ sys.scheduler.tasks, t.loop.HasEnded := by
  -- the call waits for the loop, the loop takes the step in which it exits, and the call goes on
  have hcall : AgentSystem.Overlapping Watched.calls (fun callers => ∀ c ∈ callers, c.HasReturned)
      .unprovisioned _ _ := .call .running nofun
  have hended := @AgentSystem.Overlapping.goOn _ _ _ _ _ [] [] _ _ (hcall.turn rfl) rfl
  have hoverlap := hended.overlap AgentSystem.configured_unprovisioning
    AgentSystem.keepsDiary_unprovisioning Surroundings.noPanic_watched
    AgentSystem.hosted_unprovisioned rfl
  refine ⟨_, _, AgentSystem.hosted_unprovisioned, hended, ?told,
    (hoverlap.apart fun _ h => h).1 ?told⟩
  exact Nat.lt_succ_self 0

/-- **Two calls that overlap close the producer while the loop goes on, and the first returns while
the producer is still being closed.** -/
theorem overlapping_closings_part :
    ∃ callers sys callers' sys',
      AgentSystem.Hosted Watched.calls .unprovisioning [] .unprovisioned ∧
      AgentSystem.unprovisioned.agent.isRunning = true ∧
      AgentSystem.Overlapping Watched.calls (·.length < 2) .unprovisioned callers sys ∧
      AgentSystem.ToldProducer Watched.calls .unprovisioned sys ∧
      (∃ t ∈ sys.scheduler.tasks, ¬ t.loop.HasEnded) ∧
      AgentSystem.Overlapping Watched.calls (·.length < 2) .unprovisioned callers' sys' ∧
      (∃ c ∈ callers', c.HasReturned) ∧ ∃ c ∈ callers', c.closesProducer = true := by
  have hfirst : AgentSystem.Overlapping Watched.calls (·.length < 2) .unprovisioned _ _ :=
    .call .running Nat.zero_lt_two
  -- the second call closes the producer at once
  have hsecond := hfirst.call (Nat.lt_succ_self 1)
  -- the loop takes the step in which it exits, and the first call finds the channel closed
  have hthird := @AgentSystem.Overlapping.goOn _ _ _ _ _ [] [_] _ _ (hsecond.turn rfl) rfl
  refine ⟨_, _, _, _, AgentSystem.hosted_unprovisioned, rfl, hsecond, Nat.lt_succ_self 0,
    ⟨_, List.mem_singleton_self _, not_false⟩, hthird, ⟨_, List.mem_cons_self, trivial⟩,
    ⟨_, List.mem_cons_of_mem _ (List.mem_singleton_self _), rfl⟩⟩

end MetricFeed
