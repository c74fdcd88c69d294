/-
MetricFeed/Proofs/Reporting/Exposition.lean

The walk over gathered families of labelled metrics, with any visitor.  The metrics are visited one
after the other (`Walk.Visits`), family by family, up to the first visit that fails; the walk ends
as this visit does, or well if there is none (`Walk.present_eq_ok_iff`,
`Walk.present_eq_error_iff`).

What is presented of a metric is its reading of the family's kind (`Exposition.Reads`), under an
identity that tells the group, the family's name and the labels (`Exposition.Shows`), but not the
order of the labels (`Exposition.idOf_eq_iff`).  So each counter has a baseline of its own, whatever
order its labels come in (`Exposition.get?_observe`).

Main result (`Exposition.walk_presents`): what is visited, how a walk ends, and which counters share
a baseline.
-/
import MetricFeed.Proofs.Metric.Identity
import MetricFeed.Reporting.Exposition
import MetricFeed.Reporting.Rates

namespace MetricFeed

variable {σ : Type}

/-! ### Visits -/

namespace Walk

/-- Metrics are announced and visited one after the other, and every visit succeeds: the states of
the visitor before and after. -/
inductive Visits (say : LegacyMetric → σ → σ) (visit : LegacyMetric → Act σ Unit) :
    List LegacyMetric → σ → σ → Prop
  | nil (s : σ) : Visits say visit [] s s
  | cons {m : LegacyMetric} {rest : List LegacyMetric} {s s₁ s₂ : σ} :
    visit m (say m s) = (.ok (), s₁) → Visits say visit rest s₁ s₂ →
    Visits say visit (m :: rest) s s₂

variable {say : LegacyMetric → σ → σ} {visit : LegacyMetric → Act σ Unit}
  {m : LegacyMetric} {metrics rest : List LegacyMetric} {s s₁ s' : σ}

/-- The first metric is visited after its announcement, and then the others are presented. -/
theorem present_cons_apply :
    present (fun m => Act.change (say m)) visit (m :: rest) s =
      (visit m >>= fun _ => present (fun m => Act.change (say m)) visit rest) (say m s) := by
  show (Act.change (say m) >>= fun _ => visit m >>= fun _ => _) s = _
  rw [Act.bind_apply, Act.change_apply]

/-- After a visit that succeeds, the others follow. -/
theorem present_cons_of_ok (h : visit m (say m s) = (.ok (), s₁)) :
    present (fun m => Act.change (say m)) visit (m :: rest) s =
      present (fun m => Act.change (say m)) visit rest s₁ := by
  rw [present_cons_apply, Act.bind_apply, h]

/-- A visit that fails is the last. -/
theorem present_cons_of_error {cut : Cut} (h : visit m (say m s) = (.error cut, s₁)) :
    present (fun m => Act.change (say m)) visit (m :: rest) s = (.error cut, s₁) := by
  rw [present_cons_apply, Act.bind_apply, h]

/-- Metrics are presented to the end exactly if every visit succeeds. -/
theorem present_eq_ok_iff :
    present (fun m => Act.change (say m)) visit metrics s = (.ok (), s') ↔
      Visits say visit metrics s s' := by
  induction metrics generalizing s with
  | nil =>
    constructor
    · intro h
      cases h
      exact .nil _
    · intro h
      cases h
      rfl
  | cons m rest ih =>
    rcases hvisit : visit m (say m s) with ⟨cut | _, s₁⟩
    · rw [present_cons_of_error hvisit]
      constructor
      · intro h
        cases h
      · intro h
        cases h with
        | cons hok _ => cases hvisit.symm.trans hok
    · rw [present_cons_of_ok hvisit, ih]
      constructor
      · exact .cons hvisit
      · intro h
        cases h with
        | cons hok hrest =>
          cases hvisit.symm.trans hok
          exact hrest

/-- Metrics are presented up to the first visit that fails, and this is how it ends. -/
theorem present_eq_error_iff {cut : Cut} :
    present (fun m => Act.change (say m)) visit metrics s = (.error cut, s') ↔
      ∃ before m later s₁, metrics = before ++ m :: later ∧ Visits say visit before s s₁ ∧
        visit m (say m s₁) = (.error cut, s') := by
  induction metrics generalizing s with
  | nil =>
    constructor
    · intro h
      cases h
    · rintro ⟨before, m, later, s₁, hnil, -⟩
      simp at hnil
  | cons m rest ih =>
    rcases hvisit : visit m (say m s) with ⟨cut' | _, s₁⟩
    · -- the first visit fails
      rw [present_cons_of_error hvisit]
      constructor
      · intro h
        cases h
        exact ⟨[], m, rest, _, rfl, .nil _, hvisit⟩
      · rintro ⟨before, failing, later, s₂, heq, hbefore, hfails⟩
        cases hbefore with
        | nil =>
          cases heq
          exact hvisit.symm.trans hfails
        | cons hok _ =>
          cases heq
          cases hvisit.symm.trans hok
    · rw [present_cons_of_ok hvisit, ih]
      constructor
      · rintro ⟨before, failing, later, s₂, rfl, hbefore, hfails⟩
        exact ⟨m :: before, failing, later, s₂, rfl, .cons hvisit hbefore, hfails⟩
      · rintro ⟨before, failing, later, s₂, heq, hbefore, hfails⟩
        cases hbefore with
        | nil =>
          cases heq
          cases hvisit.symm.trans hfails
        | cons hok hrest =>
          cases heq
          cases hvisit.symm.trans hok
          exact ⟨_, failing, later, s₂, rfl, hrest, hfails⟩

end Walk

namespace Exposition

variable {group : String} {family family' : Family} {m m' : LabelledMetric}

/-! ### Identities of labelled metrics -/

/-- **The identity tells name and labels**: metrics without repeated label names have the same
identity exactly if their families have the same name and they have the same labels, in whatever
order. -/
theorem idOf_eq_iff (h : (m.labels.map (·.1)).Nodup) (h' : (m'.labels.map (·.1)).Nodup) :
    idOf group family m = idOf group family' m' ↔
      family.name = family'.name ∧ m.labels.Perm m'.labels := by
  unfold idOf
  rw [MetricId.withTags_eq_iff h h']
  simp

/-- A reading of one counter is the baseline of this counter and of no other. -/
theorem get?_observe (h : (m.labels.map (·.1)).Nodup) (h' : (m'.labels.map (·.1)).Nodup)
    (r : Rates) (count : Float) (now : Int64) :
    (r.observe ⟨idOf group family m, .counter count⟩ now).1.baselines.get?
        (idOf group family' m') =
      if family.name = family'.name ∧ m.labels.Perm m'.labels then some ⟨count, now⟩
      else r.baselines.get? (idOf group family' m') := by
  show (r.baselines.insert (idOf group family m) ⟨count, now⟩).get? (idOf group family' m') = _
  rw [Table.get?_insert]
  apply if_congr _ rfl rfl
  rw [eq_comm, idOf_eq_iff h h']

/-! ### What is presented -/

/-- The reading that is presented of a metric, by the kind of its family. -/
inductive Reads (m : LabelledMetric) : FamilyKind → LegacyValue → Prop
  | counter : Reads m .counter (.counter m.counter)
  | gauge : Reads m .gauge (.gauge m.gauge)
  | untyped : Reads m .untyped (.gauge m.untyped)
  | histogram : Reads m .histogram (.histogram m.histogram.count m.histogram.sum)
  | summary : Reads m .summary (.summary m.summary.count m.summary.sum)

/-- What is presented of a family's metric: its identity has the group, the family's name and the
labels as tags, and its value is the reading of the family's kind. -/
structure Shows (group : String) (f : Family) (m : LabelledMetric) (shown : LegacyMetric) :
    Prop where
  id : shown.id = idOf group f m
  group : shown.id.group = group
  name : shown.id.name = f.name
  tags : (m.labels.map (·.1)).Nodup →
    ∀ key value, shown.id.tag? key = some value ↔ (key, value) ∈ m.labels
  value : Reads m f.kind shown.value

theorem reads_readAs (kind : FamilyKind) (m : LabelledMetric) : Reads m kind (m.readAs kind) := by
  cases kind with
  | counter => exact .counter
  | gauge => exact .gauge
  | untyped => exact .untyped
  | histogram => exact .histogram
  | summary => exact .summary

theorem shows_readAs (group : String) (f : Family) (m : LabelledMetric) :
    Shows group f m ⟨idOf group f m, m.readAs f.kind⟩ where
  id := rfl
  group := MetricId.group_withTags _ _
  name := MetricId.name_withTags _ _
  tags hkeys key value := MetricId.tag?_withTags_eq_some_iff hkeys key value
  value := reads_readAs f.kind m

/-- A family's metric is shown in one way only. -/
theorem Shows.unique {shown shown' : LegacyMetric} (h : Shows group family m shown)
    (h' : Shows group family m shown') : shown = shown' := by
  obtain ⟨id, value⟩ := shown
  obtain ⟨id', value'⟩ := shown'
  have hid : id = id' := h.id.trans h'.id.symm
  have hvalue : value = value' := by
    have hreads := h.value
    have hreads' := h'.value
    generalize family.kind = kind at hreads hreads'
    cases hreads <;> cases hreads' <;> rfl
  rw [hid, hvalue]

/-- The metrics of families in their order, each with its family. -/
def labelled (families : List Family) : List (Family × LabelledMetric) :=
  families.flatMap fun f => f.metrics.map fun m => (f, m)

/-- The legacy metrics of families show their metrics one by one. -/
theorem shows_metrics (group : String) (families : List Family) :
    List.Forall₂ (fun fm shown => Shows group fm.1 fm.2 shown) (labelled families)
      (metrics group families) := by
  have hmap : metrics group families =
      (labelled families).map fun fm => ⟨idOf group fm.1 fm.2, fm.2.readAs fm.1.kind⟩ := by
    unfold metrics labelled metricsOf
    rw [List.map_flatMap]
    simp only [List.map_map, Function.comp_def]
  rw [hmap, List.forall₂_map_right_iff, List.forall₂_same]
  exact fun fm _ => shows_readAs group fm.1 fm.2

/-- Nothing else is shown for the metrics of families. -/
theorem shows_metrics_unique {families : List Family} {presented : List LegacyMetric}
    (h : List.Forall₂ (fun fm shown => Shows group fm.1 fm.2 shown) (labelled families) presented) :
    presented = metrics group families := by
  have hunique : Relator.RightUnique fun (fm : Family × LabelledMetric) shown =>
      Shows group fm.1 fm.2 shown := fun _ _ _ => Shows.unique
  exact hunique.forall₂ h (shows_metrics group families)

/-! ### The walk -/

theorem run_walk (group : String) (families : List Family)
    (announce visit : LegacyMetric → Act σ Unit) (s : σ) :
    (walk group families).run announce visit s =
      Walk.present announce visit (metrics group families) s := by
  show (Walk.present announce visit (metrics group families) >>= fun _ => pure ()) s = _
  rw [Act.bind_apply]
  rcases Walk.present announce visit (metrics group families) s with ⟨_ | _, s'⟩ <;> rfl

/-- **A walk presents the metrics of the families in gathered order, each once, up to the first
visit that fails.**  There is one thing presented for each metric of the families, in their order:
it has an identity of the group, the family's name and the labels, and the metric's reading of the
family's kind as its value.  Each is visited after its announcement.

* The walk succeeds exactly if every visit does.
* It fails exactly if some visit does after others that succeeded; it ends with the cut of this
  visit, in the state in which this visit leaves the visitor.
* Metrics without repeated label names have the same identity exactly if their families have the
  same name and they have the same labels, in whatever order.  Then, and only then, a reading of the
  one counter is the baseline of the other. -/
theorem walk_presents (group : String) (families : List Family) (say : LegacyMetric → σ → σ)
    (visit : LegacyMetric → Act σ Unit) (s : σ) :
    (∃ presented,
      List.Forall₂ (fun fm shown => Shows group fm.1 fm.2 shown) (labelled families) presented ∧
      (∀ s', (walk group families).run (fun m => Act.change (say m)) visit s = (.ok (), s') ↔
        Walk.Visits say visit presented s s') ∧
      ∀ cut s',
        (walk group families).run (fun m => Act.change (say m)) visit s = (.error cut, s') ↔
          ∃ before m later s₁, presented = before ++ m :: later ∧
            Walk.Visits say visit before s s₁ ∧ visit m (say m s₁) = (.error cut, s')) ∧
    ∀ (family family' : Family) (m m' : LabelledMetric),
      (m.labels.map (·.1)).Nodup → (m'.labels.map (·.1)).Nodup →
      (idOf group family m = idOf group family' m' ↔
        family.name = family'.name ∧ m.labels.Perm m'.labels) ∧
      ∀ (r : Rates) count now,
        (r.observe ⟨idOf group family m, .counter count⟩ now).1.baselines.get?
            (idOf group family' m') =
          if family.name = family'.name ∧ m.labels.Perm m'.labels then some ⟨count, now⟩
          else r.baselines.get? (idOf group family' m') := by
  refine ⟨⟨metrics group families, shows_metrics group families, fun s' => ?_, fun cut s' => ?_⟩,
    fun family family' m m' h h' => ⟨?_, ?_⟩⟩
  · rw [run_walk]
    exact Walk.present_eq_ok_iff
  · rw [run_walk]
    exact Walk.present_eq_error_iff
  · exact idOf_eq_iff h h'
  · exact get?_observe h h'

/-- A visitor that keeps what it is shown, as long as there is room for it. -/
def keeping (room : Nat) (m : LegacyMetric) : Act (List LegacyMetric) Unit := fun kept =>
  if kept.length < room then (.ok (), kept ++ [m]) else (.error .panic, kept)

/-- One family of each kind, one of them with a counter whose labels come in two orders, and two
visitors, one of which has room for three metrics only. -/
theorem walk_presents_of_every_kind :
    let get : LabelledMetric := { labels := [("method", "get"), ("path", "/")], counter := 3 }
    let swapped : LabelledMetric := { labels := [("path", "/"), ("method", "get")], counter := 5 }
    let put : LabelledMetric := { labels := [("method", "put"), ("path", "/")], counter := 7 }
    let requests : Family := { name := "requests", kind := .counter, metrics := [get] }
    let families : List Family :=
      [requests,
        { name := "load", kind := .gauge, metrics := [{ labels := [], gauge := 11 }] },
        { name := "depth", kind := .untyped, metrics := [{ labels := [], untyped := 13 }] },
        { name := "delay", kind := .histogram, metrics := [{ labels := [], histogram := ⟨2, 17⟩ }] },
        { name := "size", kind := .summary, metrics := [{ labels := [], summary := ⟨4, 19⟩ }] }]
    (∃ presented : List LegacyMetric,
      presented.map (·.value) =
        [.counter 3, .gauge 11, .gauge 13, .histogram 2 17, .summary 4 19] ∧
      (walk "server" families).run (fun _ => Act.change id) (keeping 5) [] =
        (.ok (), presented) ∧
      (walk "server" families).run (fun _ => Act.change id) (keeping 3) [] =
        (.error .panic, presented.take 3)) ∧
    idOf "server" requests get = idOf "server" requests swapped ∧
    idOf "server" requests get ≠ idOf "server" requests put := by
  intro get swapped put requests families
  have hget : (get.labels.map (·.1)).Nodup := by decide
  have hswapped : (swapped.labels.map (·.1)).Nodup := by decide
  have hput : (put.labels.map (·.1)).Nodup := by decide
  obtain ⟨⟨presented, hshows, hok, -⟩, hids⟩ :=
    walk_presents "server" families (fun _ kept => kept) (keeping 5) []
  obtain ⟨⟨presented', hshows', -, herror⟩, -⟩ :=
    walk_presents "server" families (fun _ kept => kept) (keeping 3) []
  cases shows_metrics_unique hshows
  cases shows_metrics_unique hshows'
  refine ⟨⟨metrics "server" families, rfl, (hok _).mpr ?_, (herror _ _).mpr ?_⟩, ?_, ?_⟩
  · exact .cons rfl (.cons rfl (.cons rfl (.cons rfl (.cons rfl (.nil _)))))
  · -- there is no room for the fourth
    exact ⟨[_, _, _], _, _, _, rfl, .cons rfl (.cons rfl (.cons rfl (.nil _))), rfl⟩
  · exact (hids requests requests get swapped hget hswapped).1.mpr ⟨rfl, List.Perm.swap _ _ _⟩
  · intro heq
    have hperm := ((hids requests requests get put hget hput).1.mp heq).2
    have hmem := hperm.mem_iff (a := ("method", "get"))
    simp [get, put] at hmem

end Exposition

end MetricFeed
