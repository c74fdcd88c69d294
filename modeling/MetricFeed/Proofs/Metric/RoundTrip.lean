/-
MetricFeed/Proofs/Metric/RoundTrip.lean

Samples and identities are read back from their written forms.  All parts of a sample are, whatever
texts and integers they hold, but for its value: a value that is not finite is written as null,
which is no float, and of a finite one it is up to the reader of floats whether its literal is read
as the same float again (`Sample.ReadsBack`).

* `Sample.decode?_encode` : a sample with a finite value that reads back is read back;
* `Sample.decode?_encode_of_not_isFinite` : one whose value is not finite is not read at all;
* `MetricId.decode?_encode` : an identity is read back, whatever tags it has.
-/
import MetricFeed.Metric.Wire
import MetricFeed.Proofs.Json.RoundTrip

namespace MetricFeed

namespace Json

/-! ### Records -/

/-- The texts under which the members of a record are written are their keys. -/
theorem keyed?_record (members : List (String × Json)) :
    keyed? (members.map fun member => (some member.1.toList, member.2)) = some members := by
  induction members with
  | nil => rfl
  | cons member rest ih =>
    rw [List.map_cons, keyed?, ih, String.ofList_toList]
    rfl

/-- A record has the fields that it is written with. -/
theorem fields?_record (names : List String) (members : List (String × Json)) :
    (record members).fields? names = names.mapM (only? · members) := by
  show ((keyed? (members.map fun member => (some member.1.toList, member.2))).bind fun members =>
    names.mapM (only? · members)) = _
  rw [keyed?_record]
  rfl

theorem membersWritable_record {members : List (String × Json)}
    (h : ∀ member ∈ members, member.2.Writable) :
    MembersWritable (members.map fun member => (some member.1.toList, member.2)) := by
  induction members with
  | nil => trivial
  | cons member rest ih =>
    obtain ⟨hmember, hrest⟩ := List.forall_mem_cons.mp h
    exact ⟨⟨rfl, hmember⟩, ih hrest⟩

/-- A record of values that can be written can be written. -/
theorem writable_record {members : List (String × Json)}
    (h : ∀ member ∈ members, member.2.Writable) : (record members).Writable :=
  membersWritable_record h

theorem writable_text (s : String) : (text s).Writable := rfl

theorem writable_integer (n : Int) : (integer n).Writable := isSome_ofLiteral?_toString n

@[simp] theorem text?_text (s : String) : (text s).text? = some s :=
  congrArg some (String.ofList_toList)

/-- An integer is read back as one of a kind that it fits. -/
theorem integerOf?_integer {kind : Text.IntegerKind} {n : Int}
    (h : kind.least ≤ n ∧ n ≤ kind.greatest)
    (hleast : Text.IntegerKind.i64.least ≤ n) (hgreatest : n ≤ Text.IntegerKind.u64.greatest) :
    (integer n).integerOf? kind = some n := by
  show (literalInteger? (toString n).toList).filter _ = some n
  rw [literalInteger?_toString hleast hgreatest]
  simp [Option.filter, h]

section
open Text.IntegerKind

theorem integerOf?_int32 (n : Int32) : (integer n.toInt).integerOf? i32 = some n.toInt := by
  have hleast := n.le_toInt
  have hlt := n.toInt_lt
  refine integerOf?_integer ⟨?_, ?_⟩ ?_ ?_ <;> simp [least, greatest, i32, i64, u64] <;> omega

theorem integerOf?_int64 (n : Int64) : (integer n.toInt).integerOf? i64 = some n.toInt := by
  have hleast := n.le_toInt
  have hlt := n.toInt_lt
  refine integerOf?_integer ⟨?_, ?_⟩ ?_ ?_ <;> simp [least, greatest, i64, u64] <;> omega

end

/-! ### Maps -/

/-- A map holds what is put into it, if no key is put in twice. -/
theorem get?_foldl_insert {entries : List (String × String)} (h : Ascending entries) (m : TextMap)
    (key : String) :
    (entries.foldl (fun m entry => m.insert entry.1 entry.2) m).get? key =
      (entries.lookup key).or (m.get? key) := by
  induction entries generalizing m with
  | nil => rfl
  | cons entry rest ih =>
    obtain ⟨hfirst, hrest⟩ := List.pairwise_cons.mp h
    rw [List.foldl_cons, ih hrest, TextMap.get?_insert, TextMap.lookup_cons_ite]
    by_cases hkey : key = entry.1
    · -- none of the later entries has the key of the first
      have hnone : rest.lookup key = none := by
        rw [List.lookup_eq_none_iff]
        intro later hlater
        simpa [hkey] using String.ne_of_lt (hfirst later hlater)
      rw [if_pos hkey, if_pos hkey, hnone]
      rfl
    · rw [if_neg hkey, if_neg hkey]

/-- A map is made of its entries. -/
theorem ofList_entries (m : TextMap) : TextMap.ofList m.entries = m :=
  TextMap.ext_get? fun key => (get?_foldl_insert m.ascending .empty key).trans Option.or_none

theorem writable_ofTextMap (m : TextMap) : (ofTextMap m).Writable := by
  refine writable_record fun member hmember => ?_
  obtain ⟨entry, -, rfl⟩ := List.mem_map.mp hmember
  exact writable_text _

/-- A record of texts is read as a map. -/
theorem textMapOf?_record (members : List (String × Json)) :
    (record members).textMapOf? =
      (members.mapM fun member =>
        (text? member.2).map fun v => (member.1, v)).map TextMap.ofList := by
  show ((keyed? (members.map fun member => (some member.1.toList, member.2))).bind fun members =>
    (members.mapM fun member => (text? member.2).map fun v => (member.1, v)).map TextMap.ofList) = _
  rw [keyed?_record]
  rfl

theorem mapM_text?_text (entries : List (String × String)) :
    ((entries.map fun (key, value) => (key, text value)).mapM fun member =>
      (text? member.2).map fun v => (member.1, v)) = some entries := by
  induction entries with
  | nil => rfl
  | cons entry rest ih =>
    rw [List.map_cons, List.mapM_cons, ih]
    simp

/-- A map is read back, whatever keys and values it has. -/
theorem textMapOf?_ofTextMap (m : TextMap) : (ofTextMap m).textMapOf? = some m := by
  unfold ofTextMap
  rw [textMapOf?_record, mapM_text?_text, Option.map_some, ofList_entries]

end Json

/-! ### Identities -/

namespace MetricId

theorem writable_toJson (id : MetricId) : id.toJson.Writable := by
  refine Json.writable_record ?_
  simp [Json.writable_text, Json.writable_ofTextMap]

theorem ofJson?_toJson (id : MetricId) : ofJson? id.toJson = some id := by
  have hfields : id.toJson.fields? ["group", "name", "tags"]
      = some [.text id.group, .text id.name, .ofTextMap id.tags] :=
    (Json.fields?_record _ _).trans rfl
  unfold ofJson?
  rw [hfields]
  simp only [Json.text?_text, Json.textMapOf?_ofTextMap, Option.bind_eq_bind, Option.bind_some]
  rfl

/-- **An identity is read back.** -/
theorem decode?_encode (id : MetricId) : decode? id.encode = some id := by
  unfold decode? encode
  rw [Json.read?_render (writable_toJson id), Option.bind_some, ofJson?_toJson]

end MetricId

/-! ### Scopes -/

theorem Scope.writable_toJson (s : Scope) : s.toJson.Writable := by
  rcases s with _ | name | _
  · exact Json.writable_record (by simp [Json.writable_text])
  · exact Json.writable_record (by simp [Json.writable_text])
  · exact Json.writable_record (by simp [Json.writable_text])

/-- A scope is read back. -/
theorem Scope.ofJson?_toJson (s : Scope) : Scope.ofJson? s.toJson = some s := by
  rcases s with _ | name | _
  · rfl
  · have hkeys := Json.keyed?_record [("class", .text "topic"), ("topic", .text name)]
    have hclass : Json.only? "class" [("class", .text "topic"), ("topic", .text name)]
        = some (.text "topic") := rfl
    have htopic : Json.only? "topic" [("class", .text "topic"), ("topic", .text name)]
        = some (.text name) := rfl
    unfold toJson Json.record ofJson?
    simp only [hkeys, Option.bind_eq_bind, Option.bind_some]
    rw [hclass, htopic]
    exact congrArg (Option.map Scope.topic) (Json.text?_text name)
  · rfl

namespace Sample

/-! ### Samples -/

/-- The literal of the sample's value is read as the same float again. -/
def ReadsBack (s : Sample) : Prop :=
  Json.literalFloat? (Decimal.inDocuments.writeChars s.value) = some s.value

theorem writable_toJson {s : Sample} (h : (valueToJson s.value).Writable) : s.toJson.Writable := by
  refine Json.writable_record ?_
  simp [Scope.writable_toJson, Json.writable_integer, Json.writable_text, h]

/-- What is read from the document of a sample differs from it at most in the value. -/
theorem ofJson?_toJson (s : Sample) :
    ofJson? s.toJson = (valueToJson s.value).floatOf?.map fun value => { s with value } := by
  have hfields : s.toJson.fields? ["scope", "node_id", "time_ms", "metric_type", "value"]
      = some [s.scope.toJson, .integer s.nodeId.toInt, .integer s.timeMs.toInt,
        .text s.metricType, valueToJson s.value] :=
    (Json.fields?_record _ _).trans rfl
  unfold ofJson?
  rw [hfields]
  simp only [Scope.ofJson?_toJson, Json.integerOf?_int32, Json.integerOf?_int64, Json.text?_text,
    Option.bind_eq_bind, Option.bind_some, Int32.ofInt_toInt, Int64.ofInt_toInt]
  exact Option.map_eq_bind.symm

/-- **A sample with a finite value that reads back is read back.** -/
theorem decode?_encode {s : Sample} (hfinite : s.value.isFinite = true) (hback : s.ReadsBack) :
    decode? s.encode = some s := by
  have hvalue : valueToJson s.value = .number (Decimal.inDocuments.writeChars s.value) :=
    if_pos hfinite
  have hwritable : (valueToJson s.value).Writable := by
    rw [hvalue]
    unfold ReadsBack Json.literalFloat? at hback
    obtain ⟨n, hn, -⟩ := Option.bind_eq_some_iff.mp hback
    exact Option.isSome_iff_exists.mpr ⟨n, hn⟩
  unfold decode? encode
  rw [Json.read?_render (writable_toJson hwritable), Option.bind_some, ofJson?_toJson, hvalue]
  show (Json.literalFloat? _).map _ = _
  rw [hback]
  rfl

/-- **A sample whose value is not finite is not read back**, nor is any other in its place. -/
theorem decode?_encode_of_not_isFinite {s : Sample} (h : s.value.isFinite = false) :
    decode? s.encode = none := by
  have hvalue : valueToJson s.value = .null := if_neg (Bool.eq_false_iff.mp h)
  have hwritable : (valueToJson s.value).Writable := by
    rw [hvalue]
    trivial
  unfold decode? encode
  rw [Json.read?_render (writable_toJson hwritable), Option.bind_some, ofJson?_toJson, hvalue]
  rfl

end Sample

end MetricFeed
