/-
MetricFeed/Proofs/Reporting/Intake.lean

What an intake knows of its history, that is of all calls made to it since it was opened.  Under an
identity the last writer counts: a metric is registered if it is of interest and was added after it
was last removed, with the handle of its last addition (`LastAdded`).

* `lastAdded_concat` : what one more call does to this;
* `Intake.get?_serve` : a call does the same to the entries of an intake;
* `Intake.get?_after` : hence the entries are those of the last writers, whatever the history;
* `Intake.Alike.answer` : the order of the entries shows in snapshots only.

Main result (`Intake.refines_last_writer`): every call is answered from the last writers, and
neighbouring calls under different identities may trade places.
-/
import Mathlib.Data.List.Induction
import MetricFeed.Proofs.Metric.Identity
import MetricFeed.Reporting.Intake

namespace MetricFeed

variable {H : Type}

/-! ### Calls and histories -/

/-- A call to an intake. -/
inductive IntakeCall (H : Type)
  | add (id : MetricId) (handle : H)
  | remove (id : MetricId)
  | contains (id : MetricId)
  | size
  | snapshot

/-- What a call to an intake is answered with. -/
inductive IntakeAnswer (H : Type)
  | verdict (holds : Bool)
  | count (n : Nat)
  | handles (hs : List H)

namespace IntakeCall

/-- The identity that a call speaks of. -/
def id? : IntakeCall H → Option MetricId
  | .add id _ | .remove id | .contains id => some id
  | .size | .snapshot => none

/-- The identity under which a call adds or removes. -/
def written? : IntakeCall H → Option MetricId
  | .add id _ | .remove id => some id
  | .contains _ | .size | .snapshot => none

/-- The answer to a call when these metrics are registered, each with its handle. -/
def answerFrom (interest : Interest) (registered : List (MetricId × H)) :
    IntakeCall H → IntakeAnswer H
  | .add id _ => .verdict (interest id)
  | .remove id | .contains id => .verdict (registered.any fun entry => entry.1 = id)
  | .size => .count registered.length
  | .snapshot => .handles (registered.map (·.2))

/-- The calls speak of different identities. -/
def Apart (c d : IntakeCall H) : Prop :=
  ∃ x y, c.id? = some x ∧ d.id? = some y ∧ x ≠ y

end IntakeCall

/-- Answers that differ in the order of handles at most. -/
def IntakeAnswer.Alike : IntakeAnswer H → IntakeAnswer H → Prop
  | .handles hs, .handles hs' => hs.Perm hs'
  | a, b => a = b

/-- The handle was the last one added under an identity, which was not removed afterwards. -/
def LastAdded (calls : List (IntakeCall H)) (id : MetricId) (handle : H) : Prop :=
  ∃ before later, calls = before ++ .add id handle :: later ∧
    ∀ call ∈ later, call.written? ≠ some id

section History

variable {calls : List (IntakeCall H)} {call c d : IntakeCall H} {id : MetricId} {handle : H}

theorem not_lastAdded_nil : ¬ LastAdded ([] : List (IntakeCall H)) id handle := by
  rintro ⟨before, later, heq, -⟩
  simp at heq

/-- **One more call**: an addition is the last one from now on, and any other call under the
identity leaves none. -/
theorem lastAdded_concat :
    LastAdded (calls ++ [call]) id handle ↔
      call = .add id handle ∨ call.written? ≠ some id ∧ LastAdded calls id handle := by
  constructor
  · rintro ⟨before, later, heq, hlater⟩
    rcases List.eq_nil_or_concat later with rfl | ⟨rest, last, rfl⟩
    · -- nothing came after the addition, so it is the new call
      obtain ⟨-, hcall⟩ := List.append_inj' heq rfl
      exact .inl (List.singleton_inj.mp hcall)
    · rw [List.concat_eq_append, ← List.cons_append, ← List.append_assoc] at heq
      obtain ⟨hcalls, hcall⟩ := List.append_inj' heq rfl
      cases hcall
      refine .inr ⟨hlater call (by simp), before, rest, hcalls, ?_⟩
      intro other hother
      apply hlater
      simp [hother]
  · rintro (rfl | ⟨hcall, before, later, rfl, hlater⟩)
    · exact ⟨calls, [], rfl, fun _ hnone => absurd hnone List.not_mem_nil⟩
    · refine ⟨before, later ++ [call], by simp, ?_⟩
      intro other hother
      rcases List.mem_append.mp hother with hother | hother
      · exact hlater other hother
      · rw [List.mem_singleton.mp hother]
        exact hcall

theorem IntakeCall.id?_of_written? (h : call.written? = some id) : call.id? = some id := by
  cases call with
  | add _ _ => exact h
  | remove _ => exact h
  | contains _ => cases h
  | size => cases h
  | snapshot => cases h

/-- Calls that speak of different identities do not write under the same one. -/
theorem IntakeCall.Apart.written?_ne (h : c.Apart d) (hc : c.written? = some id) :
    d.written? ≠ some id := by
  obtain ⟨x, y, hx, hy, hxy⟩ := h
  intro hd
  have hidx : id = x := Option.some.inj ((id?_of_written? hc).symm.trans hx)
  have hidy : id = y := Option.some.inj ((id?_of_written? hd).symm.trans hy)
  exact hxy (hidx.symm.trans hidy)

/-- **Neighbouring calls under different identities may trade places**, whatever came before and
whatever comes later. -/
theorem lastAdded_swap (h : c.Apart d) (later : List (IntakeCall H)) :
    LastAdded (calls ++ c :: d :: later) id handle ↔
      LastAdded (calls ++ d :: c :: later) id handle := by
  induction later using List.reverseRecOn with
  | nil =>
    have hnext : ∀ a b : IntakeCall H, calls ++ [a, b] = (calls ++ [a]) ++ [b] := by simp
    have hadd : ∀ a : IntakeCall H, a = .add id handle → a.written? = some id := by
      rintro _ rfl
      rfl
    rw [hnext, hnext]
    simp only [lastAdded_concat]
    -- one of the two calls does not write under `id`
    by_cases hc : c.written? = some id
    · have hd := h.written?_ne hc
      have hdadd : d ≠ .add id handle := fun heq => hd (hadd d heq)
      simp [hc, hd, hdadd]
    · have hcadd : c ≠ .add id handle := fun heq => hc (hadd c heq)
      simp [hc, hcadd]
  | append_singleton rest last ih =>
    have hlast : ∀ a b : IntakeCall H,
        calls ++ a :: b :: (rest ++ [last]) = (calls ++ a :: b :: rest) ++ [last] := by simp
    rw [hlast, hlast, lastAdded_concat, lastAdded_concat, ih]

end History

/-! ### Entries of an intake -/

namespace Intake

/-- Answers a call. -/
def serve (i : Intake H) : IntakeCall H → IntakeAnswer H × Intake H
  | .add id handle => (.verdict (i.add id handle).1, (i.add id handle).2)
  | .remove id => (.verdict (i.remove id).1, (i.remove id).2)
  | .contains id => (.verdict (i.contains id), i)
  | .size => (.count i.size, i)
  | .snapshot => (.handles i.snapshot, i)

/-- The intake that was opened for metrics of interest and has answered calls since. -/
def after (interest : Interest) (calls : List (IntakeCall H)) : Intake H :=
  calls.foldl (fun i call => (i.serve call).2) { interest }

theorem after_concat (interest : Interest) (calls : List (IntakeCall H)) (call : IntakeCall H) :
    after interest (calls ++ [call]) = ((after interest calls).serve call).2 := by
  simp [after]

/-- There is one entry for each identity at most, and only metrics of interest have one. -/
structure Tidy (i : Intake H) : Prop where
  keys : i.metrics.keys.Nodup
  interesting : ∀ id handle, i.metrics.get? id = some handle → i.interest id = true

section Calls

variable {i j : Intake H} {call c d : IntakeCall H} {id : MetricId} {handle : H}

@[simp] theorem interest_serve (i : Intake H) (call : IntakeCall H) :
    (i.serve call).2.interest = i.interest := by
  cases call with
  | add id handle =>
    show (i.add id handle).2.interest = i.interest
    unfold add
    split <;> rfl
  | remove id => rfl
  | contains id => rfl
  | size => rfl
  | snapshot => rfl

/-- **What a call does to the entry under an identity.** -/
theorem Tidy.get?_serve (h : i.Tidy) (call : IntakeCall H) (id : MetricId) (handle : H) :
    (i.serve call).2.metrics.get? id = some handle ↔
      i.interest id = true ∧
        (call = .add id handle ∨
          call.written? ≠ some id ∧ i.metrics.get? id = some handle) := by
  have hinterest := h.interesting id handle
  cases call with
  | add key value =>
    show (i.add key value).2.metrics.get? id = some handle ↔ _
    unfold add
    by_cases hkey : i.interest key = true
    · by_cases hid : key = id
      · subst hid
        simp [hkey, IntakeCall.written?]
      · simpa [hkey, hid, Ne.symm hid, IntakeCall.written?] using hinterest
    · by_cases hid : key = id
      · subst hid
        simpa [hkey, IntakeCall.written?] using hinterest
      · simpa [hkey, hid, IntakeCall.written?] using hinterest
  | remove key =>
    show (i.metrics.erase key).get? id = some handle ↔ _
    by_cases hid : key = id
    · simp [hid, IntakeCall.written?]
    · simpa [hid, Ne.symm hid, IntakeCall.written?] using hinterest
  | contains key => simpa [serve, IntakeCall.written?] using hinterest
  | size => simpa [serve, IntakeCall.written?] using hinterest
  | snapshot => simpa [serve, IntakeCall.written?] using hinterest

theorem Tidy.serve (h : i.Tidy) (call : IntakeCall H) : (i.serve call).2.Tidy := by
  refine ⟨?_, fun id handle hget => ?_⟩
  · cases call with
    | add id handle =>
      show (i.add id handle).2.metrics.keys.Nodup
      unfold add
      split
      · exact Table.keys_insert_nodup h.keys id handle
      · exact h.keys
    | remove id => exact Table.keys_erase_nodup h.keys id
    | contains id => exact h.keys
    | size => exact h.keys
    | snapshot => exact h.keys
  · rw [interest_serve]
    exact ((h.get?_serve call id handle).mp hget).1

/-- A call leaves the entries under other identities alone. -/
theorem Tidy.get?_serve_of_ne (h : i.Tidy) (hcall : call.written? ≠ some id) :
    (i.serve call).2.metrics.get? id = i.metrics.get? id := by
  have hadd : ∀ handle, call ≠ .add id handle := by
    rintro handle rfl
    exact hcall rfl
  apply Option.ext
  intro handle
  rw [h.get?_serve]
  simpa [hadd, hcall] using h.interesting id handle

/-! ### Answers -/

/-- An intake answers from its entries. -/
theorem serve_answer (i : Intake H) (call : IntakeCall H) :
    (i.serve call).1 = call.answerFrom i.interest i.metrics.entries := by
  have hcontains : ∀ id, i.metrics.contains id =
      i.metrics.entries.any fun entry => entry.1 = id := by
    intro id
    rw [Bool.eq_iff_iff]
    simp [Table.contains, Table.get?, List.find?_isSome]
  cases call with
  | add id handle =>
    show IntakeAnswer.verdict (i.add id handle).1 = .verdict (i.interest id)
    unfold add
    split <;> simp [*]
  | remove id => exact congrArg IntakeAnswer.verdict (hcontains id)
  | contains id => exact congrArg IntakeAnswer.verdict (hcontains id)
  | size => rfl
  | snapshot => rfl

/-- A call is answered as it would have been before a call that speaks of another identity. -/
theorem Tidy.answer_serve (h : i.Tidy) (hcd : c.Apart d) :
    ((i.serve c).2.serve d).1 = (i.serve d).1 := by
  obtain ⟨x, id, hx, hid, hne⟩ := hcd
  have hc : c.written? ≠ some id := by
    intro hwritten
    have hcid := IntakeCall.id?_of_written? hwritten
    rw [hx] at hcid
    exact hne (Option.some.inj hcid)
  have hcontains : (i.serve c).2.metrics.contains id = i.metrics.contains id := by
    unfold Table.contains
    rw [h.get?_serve_of_ne hc]
  cases d with
  | add key handle =>
    rw [serve_answer, serve_answer, interest_serve]
    rfl
  | remove key =>
    cases hid
    exact congrArg IntakeAnswer.verdict hcontains
  | contains key =>
    cases hid
    exact congrArg IntakeAnswer.verdict hcontains
  | size => cases hid
  | snapshot => cases hid

/-- The same metrics are of interest, and the same entries are registered, in whatever order. -/
structure Alike (i j : Intake H) : Prop where
  interest : i.interest = j.interest
  entries : i.metrics.entries.Perm j.metrics.entries

/-- The order of the entries shows in snapshots only. -/
theorem Alike.answer (h : i.Alike j) (call : IntakeCall H) :
    (i.serve call).1.Alike (j.serve call).1 := by
  rw [serve_answer, serve_answer, h.interest]
  cases call with
  | add id handle => rfl
  | remove id => exact congrArg IntakeAnswer.verdict h.entries.any_eq
  | contains id => exact congrArg IntakeAnswer.verdict h.entries.any_eq
  | size => exact congrArg IntakeAnswer.count h.entries.length_eq
  | snapshot => exact h.entries.map _

/-- Intakes that have the same entry under each identity. -/
theorem Tidy.alike (hi : i.Tidy) (hj : j.Tidy) (hinterest : i.interest = j.interest)
    (hget : ∀ id handle, i.metrics.get? id = some handle ↔ j.metrics.get? id = some handle) :
    i.Alike j := by
  refine ⟨hinterest, ?_⟩
  rw [List.perm_ext_iff_of_nodup (.of_map _ hi.keys) (.of_map _ hj.keys)]
  rintro ⟨id, handle⟩
  rw [Table.mem_entries_iff hi.keys, Table.mem_entries_iff hj.keys, hget]

end Calls

/-! ### The entries after a history -/

section History

variable {interest : Interest} {calls : List (IntakeCall H)} {c d : IntakeCall H}
  {id : MetricId} {handle : H}

theorem tidy_after (interest : Interest) (calls : List (IntakeCall H)) :
    (after interest calls).Tidy := by
  induction calls using List.reverseRecOn with
  | nil => exact ⟨List.nodup_nil, fun _ _ hget => by cases hget⟩
  | append_singleton calls call ih =>
    rw [after_concat]
    exact ih.serve call

@[simp] theorem interest_after (interest : Interest) (calls : List (IntakeCall H)) :
    (after interest calls).interest = interest := by
  induction calls using List.reverseRecOn with
  | nil => rfl
  | append_singleton calls call ih => rw [after_concat, interest_serve, ih]

/-- **The entries are those of the last writers**, whatever the history. -/
theorem get?_after :
    (after interest calls).metrics.get? id = some handle ↔
      interest id = true ∧ LastAdded calls id handle := by
  induction calls using List.reverseRecOn with
  | nil =>
    have hnone : (after interest ([] : List (IntakeCall H))).metrics.get? id = none := rfl
    simp [hnone, not_lastAdded_nil]
  | append_singleton calls call ih =>
    rw [after_concat, (tidy_after interest calls).get?_serve, interest_after, ih,
      lastAdded_concat]
    refine and_congr_right fun hinterest => ?_
    simp [hinterest]

/-- Intakes whose histories differ in the order of two neighbouring calls that speak of different
identities. -/
theorem alike_after_swap (h : c.Apart d) (later : List (IntakeCall H)) :
    (after interest (calls ++ c :: d :: later)).Alike
      (after interest (calls ++ d :: c :: later)) := by
  apply (tidy_after _ _).alike (tidy_after _ _)
  · simp
  · intro id handle
    rw [get?_after, get?_after, lastAdded_swap h]

/-- **An intake is the map of the last writers.**  After any history of calls there is a list of
the registered metrics, one entry for each, in which

* an identity has a handle exactly if it is of interest and this handle was the last one added
  under it, with no removal since;
* every call is answered from this list: an addition with whether the identity is of interest, a
  removal and the question for an identity with whether it is registered, the others with how many
  entries there are, or with their handles.

Neighbouring calls that speak of different identities are answered the same in either order, and
all later calls are answered alike.  Identities are the same if they have the same group, name and
tags; tags of distinct keys may have been attached in any order. -/
theorem refines_last_writer (interest : Interest) (calls : List (IntakeCall H)) :
    (∃ registered : List (MetricId × H),
      (registered.map (·.1)).Nodup ∧
      (∀ id handle, (id, handle) ∈ registered ↔
        interest id = true ∧ LastAdded calls id handle) ∧
      ∀ call, ((after interest calls).serve call).1 = call.answerFrom interest registered) ∧
    (∀ c d : IntakeCall H, c.Apart d →
      (((after interest calls).serve c).2.serve d).1 = ((after interest calls).serve d).1 ∧
      (((after interest calls).serve d).2.serve c).1 = ((after interest calls).serve c).1 ∧
      ∀ later call,
        ((after interest (calls ++ c :: d :: later)).serve call).1.Alike
          ((after interest (calls ++ d :: c :: later)).serve call).1) ∧
    (∀ a b : MetricId,
      a = b ↔ a.group = b.group ∧ a.name = b.name ∧ ∀ key, a.tag? key = b.tag? key) ∧
    ∀ (id : MetricId) (tags tags' : List (String × String)),
      (tags.map (·.1)).Nodup → tags.Perm tags' → id.withTags tags = id.withTags tags' := by
  have htidy := tidy_after interest calls
  refine ⟨⟨(after interest calls).metrics.entries, htidy.keys, ?_, ?_⟩, ?_, MetricId.eq_iff, ?_⟩
  · intro id handle
    rw [Table.mem_entries_iff htidy.keys, get?_after]
  · intro call
    rw [serve_answer, interest_after]
  · intro c d hcd
    have hdc : d.Apart c := by
      obtain ⟨x, y, hx, hy, hne⟩ := hcd
      exact ⟨y, x, hy, hx, hne.symm⟩
    exact ⟨htidy.answer_serve hcd, htidy.answer_serve hdc,
      fun later call => (alike_after_swap hcd later).answer call⟩
  · exact fun _ _ _ => MetricId.withTags_perm

/-- A metric is added again after its removal, a metric of the same name is of no interest, and the
removal of one metric trades places with the addition of another. -/
theorem refines_last_writer_of_readded :
    let interest := Interest.inGroups ["server"]
    let load : MetricId := { group := "server", name := "load" }
    let idle : MetricId := { group := "server", name := "idle" }
    let calls : List (IntakeCall Nat) :=
      [.add load 1, .remove load, .add load 2, .add { load with group := "client" } 3]
    LastAdded calls load 2 ∧ IntakeCall.Apart (.add idle 4) (.remove load : IntakeCall Nat) ∧
      (∃ registered : List (MetricId × Nat), (load, 2) ∈ registered ∧
        ((after interest calls).serve .snapshot).1 = .handles (registered.map (·.2))) ∧
      (((after interest calls).serve (.add idle 4)).2.serve (.remove load)).1 =
        ((after interest calls).serve (.remove load)).1 := by
  intro interest load idle calls
  have hlast : LastAdded calls load 2 := by
    refine ⟨[.add load 1, .remove load], [.add { load with group := "client" } 3], rfl, ?_⟩
    simp [IntakeCall.written?, load]
  have hapart : IntakeCall.Apart (.add idle 4) (.remove load : IntakeCall Nat) :=
    ⟨idle, load, rfl, rfl, by decide⟩
  obtain ⟨⟨registered, -, hmem, hanswer⟩, hswap, -⟩ := refines_last_writer interest calls
  exact ⟨hlast, hapart, ⟨registered, (hmem load 2).mpr ⟨rfl, hlast⟩, hanswer .snapshot⟩,
    (hswap _ _ hapart).1⟩

end History

end Intake

end MetricFeed
