/-
MetricFeed/Json/Writer.lean

JSON documents without any blanks.  In strings the quote, the backslash and the control characters
below the space are escaped, and nothing else.
-/
import MetricFeed.Json.Basic

namespace MetricFeed.Json

/-- A hexadecimal digit in lower case. -/
def hexDigit (n : Nat) : Char :=
  Nat.digitChar n

/-- A character inside a string. -/
def escapeChar (c : Char) : List Char :=
  if c = '"' then ['\\', '"']
  else if c = '\\' then ['\\', '\\']
  else if c = '\x08' then ['\\', 'b']
  else if c = '\t' then ['\\', 't']
  else if c = '\n' then ['\\', 'n']
  else if c = '\x0c' then ['\\', 'f']
  else if c = '\r' then ['\\', 'r']
  else if c.toNat < 0x20 then
    ['\\', 'u', '0', '0', hexDigit (c.toNat / 16), hexDigit (c.toNat % 16)]
  else [c]

/-- A string with its quotes. -/
def renderString (cs : List Char) : List Char :=
  '"' :: (cs.flatMap escapeChar ++ ['"'])

mutual

/-- The characters of a document. -/
def renderChars : Json → List Char
  | .null => ['n', 'u', 'l', 'l']
  | .bool true => ['t', 'r', 'u', 'e']
  | .bool false => ['f', 'a', 'l', 's', 'e']
  | .number literal => literal
  | .string text => renderString (text.getD [])
  | .array items => '[' :: (renderItems items ++ [']'])
  | .object members => '\x7b' :: (renderMembers members ++ ['\x7d'])
termination_by structural j => j

/-- The items of an array, with commas between. -/
def renderItems : List Json → List Char
  | [] => []
  | [item] => renderChars item
  | item :: next :: rest => renderChars item ++ ',' :: renderItems (next :: rest)
termination_by structural l => l

/-- The members of an object, with commas between. -/
def renderMembers : List (Option (List Char) × Json) → List Char
  | [] => []
  | [member] => renderMember member
  | member :: next :: rest => renderMember member ++ ',' :: renderMembers (next :: rest)
termination_by structural l => l

/-- A key, a colon and the value. -/
def renderMember : Option (List Char) × Json → List Char
  | (key, value) => renderString (key.getD []) ++ ':' :: renderChars value
termination_by structural m => m

end

/-- The text of a document. -/
def render (j : Json) : String :=
  String.ofList (renderChars j)

end MetricFeed.Json
