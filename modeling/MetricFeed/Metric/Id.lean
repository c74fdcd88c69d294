/-
MetricFeed/Metric/Id.lean

The identity of a metric: its group, its name and its tags.  Tags are a map, so the order in which
they were attached does not matter.

Identities are ordered by group, then name, then tags; tags are compared entry by entry in the
order of their keys, and of two maps of which one begins the other the shorter comes first.
-/
import MetricFeed.TextMap

namespace MetricFeed

/-- The identity of a metric. -/
structure MetricId where
  group : String
  name : String
  tags : TextMap := TextMap.empty
  deriving DecidableEq, Inhabited

namespace MetricId

/-- The identity with one more tag; a tag of the same key is replaced. -/
def withTag (id : MetricId) (key value : String) : MetricId :=
  { id with tags := id.tags.insert key value }

/-- The identity with several more tags, attached one after the other. -/
def withTags (id : MetricId) (tags : List (String × String)) : MetricId :=
  tags.foldl (fun id tag => id.withTag tag.1 tag.2) id

/-- The value of a tag. -/
def tag? (id : MetricId) (key : String) : Option String :=
  id.tags.get? key

/-- The text of an identity, its tags between braces if there are any. -/
def render (id : MetricId) : String :=
  let tags := ",".intercalate (id.tags.entries.map fun (key, value) => key ++ "=" ++ value)
  id.group ++ ":" ++ id.name ++ (if id.tags.isEmpty then "" else "\x7b" ++ tags ++ "\x7d")

/-! ### Order -/

/-- Compares lists of entries from the front, by key and then by value. -/
def compareEntries : List (String × String) → List (String × String) → Ordering
  | [], [] => .eq
  | [], _ :: _ => .lt
  | _ :: _, [] => .gt
  | a :: as, b :: bs =>
    (compare a.1 b.1).then ((compare a.2 b.2).then (compareEntries as bs))

/-- Compares identities by group, name and tags. -/
def order (a b : MetricId) : Ordering :=
  (compare a.group b.group).then
    ((compare a.name b.name).then (compareEntries a.tags.entries b.tags.entries))

/-- Identities in ascending order; equal ones keep their places. -/
def sort (ids : List MetricId) : List MetricId :=
  ids.mergeSort fun a b => order a b != .gt

/-- How many different identities a list holds. -/
def countDistinct (ids : List MetricId) : Nat :=
  ids.eraseDups.length

end MetricId

end MetricFeed
