/-
MetricFeed/Proofs/Metric/Encoding.lean

The written forms of samples and identities are faithful: each is read back as what was written, and
no two samples with finite values, and no two identities, have one written form.

* `Sample.decode?_encode_of_isFinite` : all of a sample but its value is read back, whatever the
  value;
* `Sample.eq_of_encode_eq` : samples of one written form are the same;
* `MetricId.eq_of_encode_eq` : so are identities.

That the value itself is read back is up to the reader of floats, which may miss the nearest float
by its last bits (`Sample.ReadsBack`).  Its literal is faithful in any case: it spells a number that
rounds to this float and to no other.
-/
import MetricFeed.Proofs.Decimal.Literal
import MetricFeed.Proofs.Metric.RoundTrip

namespace MetricFeed

namespace Sample

/-! ### Samples -/

theorem valueToJson_of_isFinite {v : Float} (h : v.isFinite = true) :
    valueToJson v = .number (Decimal.inDocuments.writeChars v) :=
  if_pos h

/-- A sample with a finite value can be written. -/
theorem writable_toJson_of_isFinite {s : Sample} (h : s.value.isFinite = true) :
    s.toJson.Writable := by
  obtain ⟨n, b, hread, -⟩ := Decimal.ofLiteral?_writeChars (l := Decimal.inDocuments) (.inr rfl) h
  apply writable_toJson
  rw [valueToJson_of_isFinite h]
  exact Option.isSome_iff_exists.mpr ⟨n, hread⟩

/-- What is read of a sample with a finite value differs from it at most in the value. -/
theorem decode?_encode_of_isFinite {s : Sample} (h : s.value.isFinite = true) :
    decode? s.encode =
      (Json.literalFloat? (Decimal.inDocuments.writeChars s.value)).map fun value =>
        { s with value } := by
  unfold decode? encode
  rw [Json.read?_render (writable_toJson_of_isFinite h), Option.bind_some, ofJson?_toJson,
    valueToJson_of_isFinite h]
  rfl

/-- Samples with finite values have different documents. -/
theorem eq_of_toJson_eq {s s' : Sample} (h : s.value.isFinite = true)
    (h' : s'.value.isFinite = true) (heq : s.toJson = s'.toJson) : s = s' := by
  simp only [toJson, Json.record, List.map_cons, List.map_nil, Json.object.injEq, List.cons.injEq,
    Prod.mk.injEq, true_and, and_true] at heq
  obtain ⟨hscope, hnode, htime, htype, hvalue⟩ := heq
  have hscope' : s.scope = s'.scope := by
    have hread := Scope.ofJson?_toJson s.scope
    rw [hscope, Scope.ofJson?_toJson] at hread
    exact (Option.some.inj hread).symm
  have hnode' : s.nodeId = s'.nodeId := by
    have hread := Json.integerOf?_int32 s.nodeId
    rw [hnode, Json.integerOf?_int32] at hread
    exact (Int32.toInt_inj.mp (Option.some.inj hread)).symm
  have htime' : s.timeMs = s'.timeMs := by
    have hread := Json.integerOf?_int64 s.timeMs
    rw [htime, Json.integerOf?_int64] at hread
    exact (Int64.toInt_inj.mp (Option.some.inj hread)).symm
  have htype' : s.metricType = s'.metricType := by
    have hread := Json.text?_text s.metricType
    rw [htype, Json.text?_text] at hread
    exact (Option.some.inj hread).symm
  have hvalue' : s.value = s'.value := by
    rw [valueToJson_of_isFinite h, valueToJson_of_isFinite h'] at hvalue
    exact Decimal.eq_of_writeChars_eq (.inr rfl) h h' (Json.number.inj hvalue)
  rcases s with ⟨scope, nodeId, timeMs, metricType, value⟩
  rcases s' with ⟨scope', nodeId', timeMs', metricType', value'⟩
  rw [mk.injEq]
  exact ⟨hscope', hnode', htime', htype', hvalue'⟩

/-- Samples with finite values have different written forms. -/
theorem eq_of_encode_eq {s s' : Sample} (h : s.value.isFinite = true)
    (h' : s'.value.isFinite = true) (heq : s.encode = s'.encode) : s = s' := by
  have hread := Json.read?_render (writable_toJson_of_isFinite h)
  have hsame : s.toJson.render = s'.toJson.render := heq
  rw [hsame, Json.read?_render (writable_toJson_of_isFinite h')] at hread
  exact eq_of_toJson_eq h h' (Option.some.inj hread).symm

end Sample

/-! ### Identities -/

/-- Identities have different written forms. -/
theorem MetricId.eq_of_encode_eq {id id' : MetricId} (heq : id.encode = id'.encode) : id = id' := by
  have hread := decode?_encode id
  rw [heq, decode?_encode id'] at hread
  exact (Option.some.inj hread).symm

/-! ### Both -/

/-- **The written forms are faithful.**  Of a sample with a finite value all else is read back, and
the value too if its literal is; an identity is read back.  No two samples with finite values and no
two identities have one written form. -/
theorem Sample.encoding_faithful :
    (∀ s : Sample, s.value.isFinite = true →
      decode? s.encode =
        (Json.literalFloat? (Decimal.inDocuments.writeChars s.value)).map fun value =>
          { s with value }) ∧
    (∀ s : Sample, s.value.isFinite = true → s.ReadsBack → decode? s.encode = some s) ∧
    (∀ id : MetricId, MetricId.decode? id.encode = some id) ∧
    (∀ s s' : Sample, s.value.isFinite = true → s'.value.isFinite = true →
      s.encode = s'.encode → s = s') ∧
    (∀ id id' : MetricId, id.encode = id'.encode → id = id') := by
  refine ⟨?_, ?_, MetricId.decode?_encode, ?_, ?_⟩
  · intro s h
    exact decode?_encode_of_isFinite h
  · intro s h hback
    exact decode?_encode h hback
  · intro s s' h h' heq
    exact eq_of_encode_eq h h' heq
  · intro id id' heq
    exact MetricId.eq_of_encode_eq heq

/-- A sample that is hard to write: its texts hold quotes, backslashes, control characters and
letters far up, its integers are the ends of their kinds, and its value needs an exponent. -/
def Sample.awkward : Sample where
  scope := .topic "\"\\\x00\t\n\x1f\u2028é"
  nodeId := Int32.minValue
  timeMs := Int64.maxValue
  metricType := "\\\"\r\x08\x0c/"
  value := -1.5e-7

/-- The awkward sample is read back, and is written in another way than one whose topic spells out
how its own is escaped. -/
theorem Sample.encoding_faithful_of_awkward :
    awkward.value.isFinite = true ∧ awkward.ReadsBack ∧ decode? awkward.encode = some awkward ∧
      awkward.encode ≠ (Sample.mk (.topic "\\\"\\\\\\u0000") awkward.nodeId awkward.timeMs
        awkward.metricType awkward.value).encode := by
  have hfinite : awkward.value.isFinite = true := by decide
  have hback : awkward.ReadsBack := rfl
  refine ⟨hfinite, hback, encoding_faithful.2.1 awkward hfinite hback, fun heq => ?_⟩
  have hsame : awkward = Sample.mk (.topic "\\\"\\\\\\u0000") awkward.nodeId awkward.timeMs
      awkward.metricType awkward.value := encoding_faithful.2.2.2.1 awkward _ hfinite hfinite heq
  have hscope : awkward.scope = .topic "\\\"\\\\\\u0000" := congrArg Sample.scope hsame
  revert hscope
  decide

end MetricFeed
