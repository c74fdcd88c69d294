/-
MetricFeed/Metric/Wire.lean

Samples and identities as JSON documents, and back.

A record is written as an object with its fields in a fixed order.  It is read from an object with
its fields in any order, where unknown fields are passed over and a repeated field is refused, or
from an array of exactly its fields.  A scope is an object of its class and, for a topic, the
topic's name.
-/
import MetricFeed.Metric.Sample
import MetricFeed.Json.Reader
import MetricFeed.Json.Writer

namespace MetricFeed

/-! ### Fields of a record -/

namespace Json

/-- The members of an object whose keys are texts; none if a key is no text. -/
def keyed? : List (Option (List Char) × Json) → Option (List (String × Json))
  | [] => some []
  | (none, _) :: _ => none
  | (some key, value) :: rest => (keyed? rest).map ((String.ofList key, value) :: ·)

/-- The value of the only member with the given key. -/
def only? (key : String) (members : List (String × Json)) : Option Json :=
  match members.filter fun member => member.1 = key with
  | [(_, value)] => some value
  | _ => none

/-- The values of a record's fields, from an object or from an array. -/
def fields? (names : List String) : Json → Option (List Json)
  | .object members => (keyed? members).bind fun members => names.mapM (only? · members)
  | .array items => if items.length = names.length then some items else none
  | _ => none

/-- The integer of a number, if it fits the given kind. -/
def integerOf? (kind : Text.IntegerKind) : Json → Option Int
  | .number literal =>
    (literalInteger? literal).filter fun n => kind.least ≤ n && n ≤ kind.greatest
  | _ => none

/-- The float of a number. -/
def floatOf? : Json → Option Float
  | .number literal => literalFloat? literal
  | _ => none

/-- The texts under the keys of an object; a later one replaces an earlier one. -/
def textMapOf? : Json → Option TextMap
  | .object members =>
    (keyed? members).bind fun members =>
      (members.mapM fun member => (text? member.2).map fun v => (member.1, v)).map TextMap.ofList
  | _ => none

/-- The document of a map, its entries in the order of their keys. -/
def ofTextMap (m : TextMap) : Json :=
  .record (m.entries.map fun (key, value) => (key, .text value))

end Json

/-! ### Identities -/

namespace MetricId

def toJson (id : MetricId) : Json :=
  .record [("group", .text id.group), ("name", .text id.name), ("tags", .ofTextMap id.tags)]

def ofJson? (j : Json) : Option MetricId :=
  match j.fields? ["group", "name", "tags"] with
  | some [group, name, tags] => do
    let group ← group.text?
    let name ← name.text?
    let tags ← tags.textMapOf?
    return { group, name, tags }
  | _ => none

/-- The written form of an identity. -/
def encode (id : MetricId) : String :=
  id.toJson.render

/-- The identity that a text spells. -/
def decode? (s : String) : Option MetricId :=
  (Json.read? s).bind ofJson?

end MetricId

/-! ### Scopes -/

namespace Scope

def toJson (s : Scope) : Json :=
  match s with
  | .topic name => .record [("class", .text "topic"), ("topic", .text name)]
  | .broker => .record [("class", .text "broker")]
  | .custom => .record [("class", .text "custom")]

/-- The class that a member of an object spells: by its word, or by an object with the word for
its only key and null. -/
def className? : Json → Option String
  | .object [(some key, .null)] => some (String.ofList key)
  | j => j.text?

/-- The scope of a class with its content, if there is one: a topic needs a text, the other
classes admit null. -/
def ofParts? (cls : String) (content : Option Json) : Option Scope :=
  match cls, content with
  | "broker", none | "broker", some .null => some .broker
  | "custom", none | "custom", some .null => some .custom
  | "topic", some c => c.text?.map .topic
  | _, _ => none

/-- An object names the class and the topic; an array has the word for the class and the content,
which it may not leave out. -/
def ofJson? : Json → Option Scope
  | .array [cls, content] => cls.text?.bind (ofParts? · (some content))
  | .object members => do
    let members ← Json.keyed? members
    let cls ← (Json.only? "class" members).bind className?
    if members.any (·.1 = "topic") then
      let content ← Json.only? "topic" members
      ofParts? cls (some content)
    else
      ofParts? cls none
  | _ => none

/-- The scope that a text spells. -/
def decode? (s : String) : Option Scope :=
  (Json.read? s).bind ofJson?

end Scope

/-! ### Samples -/

namespace Sample

/-- The literal of a float, or null for the values without digits. -/
def valueToJson (v : Float) : Json :=
  if v.isFinite then .number (Decimal.inDocuments.writeChars v) else .null

def toJson (s : Sample) : Json :=
  .record
    [("scope", s.scope.toJson),
     ("node_id", .integer s.nodeId.toInt),
     ("time_ms", .integer s.timeMs.toInt),
     ("metric_type", .text s.metricType),
     ("value", valueToJson s.value)]

def ofJson? (j : Json) : Option Sample :=
  match j.fields? ["scope", "node_id", "time_ms", "metric_type", "value"] with
  | some [scope, nodeId, timeMs, metricType, value] => do
    let scope ← Scope.ofJson? scope
    let nodeId ← nodeId.integerOf? .i32
    let timeMs ← timeMs.integerOf? .i64
    let metricType ← metricType.text?
    let value ← value.floatOf?
    return ⟨scope, Int32.ofInt nodeId, Int64.ofInt timeMs, metricType, value⟩
  | _ => none

/-- The written form of a sample: the payload of its record. -/
def encode (s : Sample) : String :=
  s.toJson.render

/-- The sample that a text spells. -/
def decode? (s : String) : Option Sample :=
  (Json.read? s).bind ofJson?

end Sample

end MetricFeed
