/-
MetricFeed/Proofs/Reporting/Dialogue.lean

Dialogues in time with any administration.  Each request may be answered with anything at any time,
or never, and anything may happen elsewhere meanwhile.

A dialogue is first taken without time: a request is settled when it is answered or given up, and
the requests settled so far say where the dialogue stands (`Talk`, `Talk.unique`).  In time a
dialogue runs (`Run`): calls are made, answered and given up as `Progress.advance` does it, and
between two steps time runs on to what is waited for.

Main result (`Run.sound`): a run is a talk, and its requests are given up exactly if the answer
would come after the deadline.  Timers go off at whole milliseconds, and so time never jumps past an
answer that is due after the deadline (`lt_of_le_jumpTo`).
-/
import MetricFeed.Reporting.Clock
import MetricFeed.Reporting.Dialogue

namespace MetricFeed

variable {σ α S : Type}

/-! ### Timers -/

theorem le_timerAt (now : Nat) (span : Duration) : now ≤ timerAt now span := by
  unfold timerAt
  split
  · exact Nat.le_refl _
  · exact Nat.le_trans (Nat.le_add_right _ _) (le_roundUpToMilli _)

theorem lt_timerAt (now : Nat) {span : Duration} (h : span.nanos ≠ 0) :
    now < timerAt now span := by
  have hle := le_roundUpToMilli (now + span.nanos)
  unfold timerAt
  rw [if_neg h]
  omega

/-- A timer that does not go off at once goes off at a whole millisecond. -/
theorem timerAt_of_ne {now : Nat} {span : Duration} (h : timerAt now span ≠ now) :
    ∃ ms, timerAt now span = ms * nanosPerMilli := by
  unfold timerAt at h ⊢
  split at h
  · exact absurd rfl h
  · rename_i hspan
    rw [if_neg hspan]
    exact ⟨_, rfl⟩

/-- At a whole millisecond, a timer of whole milliseconds runs for exactly its span. -/
theorem timerAt_of_dvd {now : Nat} {span : Duration} (hnow : nanosPerMilli ∣ now)
    (hspan : nanosPerMilli ∣ span.nanos) : timerAt now span = now + span.nanos := by
  obtain ⟨ms, hms⟩ := Nat.dvd_add hnow hspan
  unfold timerAt
  split
  · next hzero => rw [hzero, Nat.add_zero]
  · rw [hms, Nat.mul_comm, roundUpToMilli_mul]

/-- From a whole millisecond on, timers go off at whole milliseconds. -/
theorem dvd_timerAt {now : Nat} (hnow : nanosPerMilli ∣ now) (span : Duration) :
    nanosPerMilli ∣ timerAt now span := by
  by_cases h : timerAt now span = now
  · rw [h]
    exact hnow
  · obtain ⟨ms, hms⟩ := timerAt_of_ne h
    exact ⟨ms, hms.trans (Nat.mul_comm _ _)⟩

theorem timerAt_mono {now later : Nat} (h : now ≤ later) (span : Duration) :
    timerAt now span ≤ timerAt later span := by
  unfold timerAt
  split
  · exact h
  · unfold roundUpToMilli nanosPerMilli
    omega

theorem le_jumpTo (now wake : Nat) : wake ≤ jumpTo now wake := by
  unfold jumpTo nanosPerMilli
  omega

/-- Time that runs to a whole millisecond does not reach a later one. -/
theorem lt_of_le_jumpTo {now wake next later : Nat} (hwake : ∃ ms, wake = ms * nanosPerMilli)
    (hnext : ∃ ms, next = ms * nanosPerMilli) (hnow : now < wake) (hlt : wake < next)
    (hle : later ≤ jumpTo now wake) : later < next := by
  obtain ⟨ms, rfl⟩ := hwake
  obtain ⟨ms', rfl⟩ := hnext
  unfold jumpTo at hle
  unfold nanosPerMilli at *
  omega

/-- At a whole millisecond, time jumps to the timer and not beyond. -/
theorem jumpTo_of_dvd {now wake : Nat} (hnow : nanosPerMilli ∣ now) (hle : now ≤ wake) :
    jumpTo now wake = wake := by
  unfold jumpTo
  rw [Nat.div_mul_cancel hnow]
  omega

theorem dvd_jumpTo {now wake : Nat} (hnow : nanosPerMilli ∣ now) (hwake : nanosPerMilli ∣ wake) :
    nanosPerMilli ∣ jumpTo now wake := by
  unfold jumpTo
  rw [Nat.div_mul_cancel hnow]
  exact Nat.dvd_add hnow (Nat.dvd_sub hwake hnow)

/-- A call with a time limit is waited for until a timer goes off, no later than the limit says. -/
theorem Flight.await_wake? (f : Flight S α) (made : Nat) (timeout : Duration) :
    ∃ span, (f.await made (some timeout)).wake? = some (timerAt made span) ∧
      timerAt made span ≤ timerAt made timeout := by
  rcases hdelay : f.delay with _ | delay
  · refine ⟨timeout, ?_, Nat.le_refl _⟩
    simp only [Call.wake?, Flight.await, hdelay, Option.map_none, Option.map_some, Call.earlier]
  · rcases Nat.le_total (timerAt made delay) (timerAt made timeout) with hle | hle
    · refine ⟨delay, ?_, hle⟩
      simp only [Call.wake?, Flight.await, hdelay, Option.map_some, Call.earlier,
        Nat.min_eq_left hle]
    · refine ⟨timeout, ?_, Nat.le_refl _⟩
      simp only [Call.wake?, Flight.await, hdelay, Option.map_some, Call.earlier,
        Nat.min_eq_right hle]

namespace Call

/-- The answer comes no later than the deadline. -/
def InTime (c : Call S α) : Prop :=
  ∃ answered, c.answeredAt = some answered ∧ ∀ deadline, c.deadline = some deadline →
    answered ≤ deadline

theorem isAnswered_iff {c : Call S α} {now : Nat} :
    c.isAnswered now = true ↔ ∃ answered, c.answeredAt = some answered ∧ answered ≤ now := by
  cases h : c.answeredAt with
  | none => simp [isAnswered, h]
  | some answered => simp [isAnswered, h]

theorem isOverdue_iff {c : Call S α} {now : Nat} :
    c.isOverdue now = true ↔ ∃ deadline, c.deadline = some deadline ∧ deadline ≤ now := by
  cases h : c.deadline with
  | none => simp [isOverdue, h]
  | some deadline => simp [isOverdue, h]

/-- There is something to be done about a call once it is the time for it. -/
theorem isDue_of_wake? {c : Call S α} {now wake : Nat} (h : c.wake? = some wake)
    (hle : wake ≤ now) : c.isDue now = true := by
  obtain ⟨a, d, f⟩ := c
  cases a <;> cases d <;>
    simp [isDue, isAnswered, isOverdue, wake?, earlier] at h ⊢ <;> omega

theorem le_answeredAt_of_wake? {c : Call S α} {wake answered : Nat} (h : c.wake? = some wake)
    (ha : c.answeredAt = some answered) : wake ≤ answered := by
  unfold wake? at h
  rw [ha] at h
  cases hd : c.deadline <;> rw [hd] at h <;> simp only [earlier, Option.some.injEq] at h <;> omega

theorem le_deadline_of_wake? {c : Call S α} {wake deadline : Nat} (h : c.wake? = some wake)
    (hd : c.deadline = some deadline) : wake ≤ deadline := by
  unfold wake? at h
  rw [hd] at h
  cases ha : c.answeredAt <;> rw [ha] at h <;> simp only [earlier, Option.some.injEq] at h <;> omega

/-- An answer that has come before the deadline is in time. -/
theorem inTime_of_isAnswered {c : Call S α} {now : Nat} (h : c.isAnswered now = true)
    (hnow : ∀ deadline, c.deadline = some deadline → now ≤ deadline) : c.InTime := by
  obtain ⟨answered, ha, hle⟩ := isAnswered_iff.mp h
  exact ⟨answered, ha, fun deadline hd => Nat.le_trans hle (hnow deadline hd)⟩

/-- An answer that has not come by the deadline is not in time. -/
theorem not_inTime_of_isOverdue {c : Call S α} {now : Nat} (h : c.isAnswered now = false)
    (hover : c.isOverdue now = true) : ¬ c.InTime := by
  rintro ⟨answered, ha, hle⟩
  obtain ⟨deadline, hd, hdl⟩ := isOverdue_iff.mp hover
  have hanswered : c.isAnswered now = true :=
    isAnswered_iff.mpr ⟨answered, ha, Nat.le_trans (hle deadline hd) hdl⟩
  rw [h] at hanswered
  cases hanswered

end Call

/-! ### Requests that are settled -/

/-- A request that is settled: it has been answered, or given up. -/
structure Settled where
  request : AdminRequest
  answer? : Option (Except AdminFault request.Answer)

/-- A settled request, and the call that was made for it. -/
structure SettledCall (S : Type) extends Settled where
  call : Call S (Except AdminFault request.Answer)

/-- The call is what the administration made of the request, the answer is the call's, and the
request is given up if and only if the answer does not come in time. -/
structure SettledCall.Genuine (admin : Administration S) (timeout : Duration)
    (e : SettledCall S) : Prop where
  made : ∃ now s, e.call = (admin e.request s).1.await now (some timeout)
  inTime : e.answer?.isSome ↔ e.call.InTime
  answered : ∀ answer, e.answer? = some answer → ∃ s, (e.call.finish s).1 = .value answer

namespace Dialogue

/-! ### Talks -/

/-- Where a dialogue stands, and the requests that have been settled so far, in order.  A request
that is given up counts as answered with a fault. -/
inductive Talk (d : Dialogue σ α) (timeout : Duration) (first : σ) : List Settled → σ ⊕ α → Prop
  | start : Talk d timeout first [] (.inl first)
  | settle {es : List Settled} {step : σ} (before : Talk d timeout first es (.inl step))
    (answer? : Option (Except AdminFault (d.request step).Answer)) :
    Talk d timeout first (es ++ [⟨d.request step, answer?⟩])
      (d.next step (answer?.getD (.error (.timeout timeout)))).2

section Talks

variable {d : Dialogue σ α} {timeout : Duration} {first : σ}

theorem Talk.nil {x : σ ⊕ α} (h : Talk d timeout first [] x) : x = .inl first := by
  generalize hes : ([] : List Settled) = es at h
  cases h with
  | start => rfl
  | settle _ answer? => exact absurd hes.symm (List.append_ne_nil_of_right_ne_nil _ (by simp))

theorem Talk.snoc {es : List Settled} {e : Settled} {x : σ ⊕ α}
    (h : Talk d timeout first (es ++ [e]) x) :
    ∃ (step : σ) (answer? : Option (Except AdminFault (d.request step).Answer)),
      Talk d timeout first es (.inl step) ∧ e = ⟨d.request step, answer?⟩ ∧
        x = (d.next step (answer?.getD (.error (.timeout timeout)))).2 := by
  generalize hes : es ++ [e] = es' at h
  cases h with
  | start => exact absurd hes (List.append_ne_nil_of_right_ne_nil _ (by simp))
  | @settle es' step h answer? =>
    obtain ⟨rfl, he⟩ := List.append_inj' hes rfl
    exact ⟨step, answer?, h, List.singleton_inj.mp he, rfl⟩

/-- **The settled requests determine where the dialogue stands.** -/
theorem Talk.unique {es : List Settled} {x y : σ ⊕ α} (hx : Talk d timeout first es x)
    (hy : Talk d timeout first es y) : x = y := by
  induction hx generalizing y with
  | start => exact hy.nil.symm
  | @settle es step _ answer? ih =>
    obtain ⟨step', answer?', hstep', he, rfl⟩ := hy.snoc
    obtain rfl : step = step' := Sum.inl.inj (ih hstep')
    obtain rfl : answer? = answer?' := by
      injection he
    rfl

end Talks

/-! ### Runs -/

namespace Progress

variable {d : Dialogue σ α}

/-- The request that a step makes a call for, if any. -/
def asks (p : d.Progress S) : List AdminRequest :=
  match p.call with
  | none => [d.request p.step]
  | some _ => []

/-- The request whose call is waited for, if any. -/
def outstanding (p : d.Progress S) : List AdminRequest :=
  match p.call with
  | none => []
  | some _ => [d.request p.step]

/-- The request that a step settles, if any: a panic is no answer. -/
def settles (p : d.Progress S) (now : Nat) (s : S) : List (SettledCall S) :=
  match p with
  | ⟨_, none⟩ => []
  | ⟨step, some c⟩ =>
    if c.isAnswered now then
      match (c.finish s).1 with
      | .value answer => [⟨⟨d.request step, some answer⟩, c⟩]
      | .panicked _ => []
    else if c.isOverdue now then [⟨⟨d.request step, none⟩, c⟩]
    else []

end Progress

/-- A dialogue in time: the present instant, the requests made and those settled so far, where it
stands, and the state of the surroundings.  Time runs on while there is nothing to be done, no
further than to the next timer. -/
inductive Run (d : Dialogue σ α) (admin : Administration S) (note : Notice → S → S)
    (timeout : Duration) (first : σ) :
    Nat → List AdminRequest → List (SettledCall S) → d.Progress S ⊕ Reply α → S → Prop
  | start (now : Nat) (s : S) : Run d admin note timeout first now [] [] (.inl { step := first }) s
  | advance {now : Nat} {asked : List AdminRequest} {es : List (SettledCall S)} {p : d.Progress S}
    {s : S} :
    Run d admin note timeout first now asked es (.inl p) s → p.isDue now = true →
    Run d admin note timeout first now (asked ++ p.asks) (es ++ p.settles now s)
      (p.advance admin note timeout now s).1 (p.advance admin note timeout now s).2
  | wait {now later : Nat} {asked : List AdminRequest} {es : List (SettledCall S)}
    {p : d.Progress S} {s : S} :
    Run d admin note timeout first now asked es (.inl p) s → p.isDue now = false → now ≤ later →
    (∀ wake, p.wake? = some wake → later ≤ jumpTo now wake) →
    Run d admin note timeout first later asked es (.inl p) s
  /-- Something else happens in the surroundings. -/
  | elsewhere {now : Nat} {asked : List AdminRequest} {es : List (SettledCall S)}
    {x : d.Progress S ⊕ Reply α} {s : S} (s' : S) :
    Run d admin note timeout first now asked es x s →
    Run d admin note timeout first now asked es x s'

section Runs

variable {d : Dialogue σ α} {admin : Administration S} {note : Notice → S → S}
variable {timeout : Duration} {first : σ}

/-- A call that is waited for: it was made before, and if its answer is not in time, then it has
not come yet. -/
def Progress.Waits (admin : Administration S) (timeout : Duration) (now : Nat)
    (p : d.Progress S) : Prop :=
  ∀ c, p.call = some c →
    (∃ made s, made ≤ now ∧ c = (admin (d.request p.step) s).1.await made (some timeout)) ∧
      (¬ c.InTime → c.isAnswered now = false)

/-- What holds of a run: where it stands agrees with the requests that have been settled, and no
other requests have been made than these and the one that is waited for. -/
def Stands (d : Dialogue σ α) (admin : Administration S) (timeout : Duration) (first : σ)
    (now : Nat) (asked : List AdminRequest) (es : List (SettledCall S)) :
    d.Progress S ⊕ Reply α → Prop
  | .inl p =>
    Talk d timeout first (es.map (·.toSettled)) (.inl p.step) ∧ p.Waits admin timeout now ∧
      asked = es.map (·.request) ++ p.outstanding
  | .inr (.value a) =>
    Talk d timeout first (es.map (·.toSettled)) (.inr a) ∧ asked = es.map (·.request)
  | .inr (.panicked _) =>
    ∃ step, Talk d timeout first (es.map (·.toSettled)) (.inl step) ∧
      asked = es.map (·.request) ++ [d.request step]

variable {now : Nat} {asked : List AdminRequest} {es : List (SettledCall S)} {s : S}

/-- A dialogue that goes on after an answer stands where the talk does. -/
theorem stands_answered {p : d.Progress S} {e : SettledCall S}
    (h : Talk d timeout first (es.map (·.toSettled)) (.inl p.step))
    (hasked : asked = es.map (·.request) ++ [d.request p.step])
    (answer? : Option (Except AdminFault (d.request p.step).Answer))
    (he : e.toSettled = ⟨d.request p.step, answer?⟩) :
    Stands d admin timeout first now asked (es ++ [e])
      (p.answered note (answer?.getD (.error (.timeout timeout))) s).1 := by
  have htalk := h.settle answer?
  have hes : (es ++ [e]).map (·.toSettled) =
      es.map (·.toSettled) ++ [⟨d.request p.step, answer?⟩] := by
    rw [List.map_append, List.map_singleton, he]
  have hrequests : asked = (es ++ [e]).map (·.request) := by
    rw [hasked, List.map_append, List.map_singleton, he]
  rw [← hes] at htalk
  unfold Progress.answered
  rcases hn : d.next p.step (answer?.getD (.error (.timeout timeout))) with ⟨notices, next | a⟩
  · rw [hn] at htalk
    exact ⟨htalk, nofun, hrequests.trans (List.append_nil _).symm⟩
  · rw [hn] at htalk
    exact ⟨htalk, hrequests⟩

/-- A call that has just been made is waited for. -/
theorem waits_called (p : d.Progress S) (now : Nat) (s : S) :
    ({ step := p.step, call := some ((admin (d.request p.step) s).1.await now (some timeout)) } :
      d.Progress S).Waits admin timeout now := by
  rintro c hc
  obtain rfl := Option.some.inj hc
  refine ⟨⟨now, s, Nat.le_refl _, rfl⟩, fun hlate => ?_⟩
  apply Bool.eq_false_iff.mpr
  intro hanswered
  apply hlate
  apply Call.inTime_of_isAnswered hanswered
  rintro deadline hd
  obtain rfl := Option.some.inj hd
  exact le_timerAt now timeout

/-- Whatever is waited for, an answer that is not in time does not come while time runs on. -/
theorem Progress.Waits.later {p : d.Progress S} (h : p.Waits admin timeout now) {later : Nat}
    (hdue : p.isDue now = false) (hle : now ≤ later)
    (hwake : ∀ wake, p.wake? = some wake → later ≤ jumpTo now wake) :
    p.Waits admin timeout later := by
  intro c hc
  obtain ⟨⟨made, s, hmade, hcall⟩, -⟩ := h c hc
  refine ⟨⟨made, s, Nat.le_trans hmade hle, hcall⟩, fun hlate => ?_⟩
  apply Bool.eq_false_iff.mpr
  intro hanswered
  obtain ⟨answered, ha, hal⟩ := Call.isAnswered_iff.mp hanswered
  -- the answer is due after the deadline, and the deadline has not come
  have hd : c.deadline = some (timerAt made timeout) := by
    rw [hcall]
    rfl
  have hdeadline : timerAt made timeout < answered := by
    apply Nat.lt_of_not_le
    intro hin
    refine hlate ⟨answered, ha, fun deadline hd' => ?_⟩
    rw [hd] at hd'
    obtain rfl := Option.some.inj hd'
    exact hin
  have hnow : now < timerAt made timeout := by
    apply Nat.lt_of_not_le
    intro hover
    have hdue' : p.isDue now = true := by
      simp [Progress.isDue, hc, Call.isDue, Call.isOverdue, hd, hover]
    rw [hdue] at hdue'
    cases hdue'
  have hwakes : p.wake? = some (timerAt made timeout) := by
    simp only [Progress.wake?, hc, Option.bind_some, Call.wake?, ha, hd, Call.earlier]
    rw [Nat.min_eq_right (Nat.le_of_lt hdeadline)]
  obtain ⟨span, hspan⟩ : ∃ span, answered = timerAt made span := by
    rw [hcall] at ha
    obtain ⟨span, -, hspan⟩ := Option.map_eq_some_iff.mp ha
    exact ⟨span, hspan.symm⟩
  rw [hspan] at hdeadline hal
  have hlt : later < timerAt made span :=
    lt_of_le_jumpTo (timerAt_of_ne (by omega)) (timerAt_of_ne (by omega)) hnow hdeadline
      (hwake _ hwakes)
  omega

/-- **A step settles requests as they deserve, and goes on as the talk does.** -/
theorem advance_stands {p : d.Progress S}
    (h : Talk d timeout first (es.map (·.toSettled)) (.inl p.step))
    (hwaits : p.Waits admin timeout now)
    (hasked : asked = es.map (·.request) ++ p.outstanding) :
    (∀ e ∈ p.settles now s, e.Genuine admin timeout) ∧
      Stands d admin timeout first now (asked ++ p.asks) (es ++ p.settles now s)
        (p.advance admin note timeout now s).1 := by
  obtain ⟨step, _ | c⟩ := p
  · -- the call is made
    have hes : es ++ Progress.settles (⟨step, none⟩ : d.Progress S) now s = es :=
      List.append_nil es
    have hcalled : asked ++ [d.request step] = es.map (·.request) ++ [d.request step] := by
      rw [hasked]
      exact congrArg (· ++ _) (List.append_nil _)
    rw [hes]
    exact ⟨fun _ he => absurd he List.not_mem_nil, h, waits_called ⟨step, none⟩ now s, hcalled⟩
  · obtain ⟨⟨made, s₀, -, hcall⟩, hlate⟩ := hwaits c rfl
    have hsame : asked ++ Progress.asks (⟨step, some c⟩ : d.Progress S) =
        es.map (·.request) ++ [d.request step] := (List.append_nil _).trans hasked
    rw [hsame]
    unfold Progress.advance Progress.settles
    by_cases hanswered : c.isAnswered now = true
    · simp only [hanswered, if_true]
      rcases hf : c.finish s with ⟨answer | message, s'⟩
      · -- the answer is taken
        have hin : c.InTime := by
          apply Classical.byContradiction
          intro hnot
          rw [hlate hnot] at hanswered
          cases hanswered
        refine ⟨?_, stands_answered h rfl (some answer) rfl⟩
        intro e he
        obtain rfl := List.mem_singleton.mp he
        refine ⟨⟨made, s₀, hcall⟩, ⟨fun _ => hin, fun _ => rfl⟩, ?_⟩
        rintro answer' ha
        obtain rfl := Option.some.inj ha
        exact ⟨s, by rw [hf]⟩
      · -- nothing is settled
        refine ⟨fun _ he => absurd he List.not_mem_nil, step, ?_, ?_⟩
        · rw [List.append_nil]
          exact h
        · rw [List.append_nil]
    · have hnot : c.isAnswered now = false := Bool.eq_false_iff.mpr hanswered
      by_cases hover : c.isOverdue now = true
      · -- the request is given up
        simp only [hnot, hover, if_true, if_false, Bool.false_eq_true]
        refine ⟨?_, stands_answered h rfl none rfl⟩
        intro e he
        obtain rfl := List.mem_singleton.mp he
        refine ⟨⟨made, s₀, hcall⟩, ⟨nofun, fun hin => ?_⟩, nofun⟩
        exact absurd hin (Call.not_inTime_of_isOverdue hnot hover)
      · simp only [hnot, hover, if_false, Bool.false_eq_true, List.append_nil]
        exact ⟨fun _ he => absurd he List.not_mem_nil, h, hwaits, rfl⟩

/-- **A run is a talk** in which every request is settled in time or given up. -/
theorem Run.sound {x : d.Progress S ⊕ Reply α}
    (h : Run d admin note timeout first now asked es x s) :
    (∀ e ∈ es, e.Genuine admin timeout) ∧ Stands d admin timeout first now asked es x := by
  induction h with
  | start now s => exact ⟨fun _ he => absurd he List.not_mem_nil, .start, nofun, rfl⟩
  | advance _ _ ih =>
    obtain ⟨hgenuine, htalk, hwaits, hasked⟩ := ih
    obtain ⟨hsettled, hstands⟩ := advance_stands htalk hwaits hasked
    refine ⟨fun e he => ?_, hstands⟩
    rcases List.mem_append.mp he with he | he
    · exact hgenuine e he
    · exact hsettled e he
  | wait _ hdue hle hwake ih =>
    obtain ⟨hgenuine, htalk, hwaits, hasked⟩ := ih
    exact ⟨hgenuine, htalk, hwaits.later hdue hle hwake, hasked⟩
  | elsewhere _ _ ih => exact ih

/-- A dialogue that waits for a call knows when to go on, even if there is never an answer. -/
theorem Progress.Waits.wakes {p : d.Progress S} (h : p.Waits admin timeout now) :
    p.isDue now = true ∨ ∃ wake, p.wake? = some wake := by
  obtain ⟨step, _ | c⟩ := p
  · exact .inl rfl
  · obtain ⟨⟨made, s, -, hcall⟩, -⟩ := h c rfl
    have hd : c.deadline = some (timerAt made timeout) := congrArg (·.deadline) hcall
    rcases hw : c.wake? with _ | wake
    · rw [(Call.earlier_eq_none_iff.mp hw).2] at hd
      cases hd
    · exact .inr ⟨wake, hw⟩

end Runs

end Dialogue

end MetricFeed
