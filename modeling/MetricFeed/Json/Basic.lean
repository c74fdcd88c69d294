/-
MetricFeed/Json/Basic.lean

JSON documents as their text spells them.  A document keeps the members of an object in their
order, repeated keys included, and a number as its literal; what a repeated key or a literal means
is for the reader of a particular record to say.

A string literal may spell half of a surrogate pair, which is no text; such a literal is kept as
`none`, so that a document can be read as long as nobody asks for that text.
-/

namespace MetricFeed

/-- A JSON document. -/
inductive Json
  | null
  | bool (value : Bool)
  | number (literal : List Char)
  | string (text : Option (List Char))
  | array (items : List Json)
  | object (members : List (Option (List Char) × Json))

namespace Json

/-- A string that is a text. -/
def text (s : String) : Json := .string (some s.toList)

/-- A whole number. -/
def integer (n : Int) : Json := .number (toString n).toList

/-- An object with texts for keys. -/
def record (members : List (String × Json)) : Json :=
  .object (members.map fun (key, value) => (some key.toList, value))

/-- The text of a string. -/
def text? : Json → Option String
  | .string (some cs) => some (String.ofList cs)
  | _ => none

end Json

end MetricFeed
