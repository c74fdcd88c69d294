/-
MetricFeed/Json/Reader.lean

Reading a JSON document from its text.  Blanks are allowed around every token; nothing may follow
the document.  A reader takes characters off the front of a text and gives back the rest.

The fuel bounds the count of tokens read; every token takes at least one character, so one more
than the length of the text is always enough.
-/
import MetricFeed.Json.Basic
import MetricFeed.Json.Number

namespace MetricFeed.Json

/-! ### Blanks and words -/

def isJsonBlank (c : Char) : Bool :=
  c == ' ' || c == '\n' || c == '\t' || c == '\r'

def skipBlanks (cs : List Char) : List Char :=
  cs.dropWhile isJsonBlank

/-- Takes a word off the front. -/
def dropWord? : List Char → List Char → Option (List Char)
  | [], cs => some cs
  | w :: word, c :: cs => if w = c then dropWord? word cs else none
  | _ :: _, [] => none

/-! ### Strings -/

/-- The value of a hexadecimal digit. -/
def hexValue? (c : Char) : Option Nat :=
  let n := c.toNat
  if 48 ≤ n ∧ n ≤ 57 then some (n - 48)
  else if 97 ≤ n ∧ n ≤ 102 then some (n - 87)
  else if 65 ≤ n ∧ n ≤ 70 then some (n - 55)
  else none

/-- The code that four hexadecimal digits spell. -/
def hexCode? (a b c d : Char) : Option Nat := do
  let a ← hexValue? a
  let b ← hexValue? b
  let c ← hexValue? c
  let d ← hexValue? d
  return ((a * 16 + b) * 16 + c) * 16 + d

/-- What an escape letter stands for. -/
def escapeCode? : Char → Option Nat
  | '"' => some 0x22
  | '\\' => some 0x5C
  | '/' => some 0x2F
  | 'b' => some 0x08
  | 'f' => some 0x0C
  | 'n' => some 0x0A
  | 'r' => some 0x0D
  | 't' => some 0x09
  | _ => none

/-- Reads the codes of a string up to its closing quote. -/
def readCodes : List Char → Option (List Nat × List Char)
  | [] => none
  | '"' :: rest => some ([], rest)
  | '\\' :: 'u' :: a :: b :: c :: d :: rest =>
    match hexCode? a b c d with
    | none => none
    | some code => (readCodes rest).map fun (codes, after) => (code :: codes, after)
  | '\\' :: e :: rest =>
    match escapeCode? e with
    | none => none
    | some code => (readCodes rest).map fun (codes, after) => (code :: codes, after)
  | c :: rest =>
    if c = '\\' ∨ c.toNat < 0x20 then none
    else (readCodes rest).map fun (codes, after) => (c.toNat :: codes, after)

/-- Whether a code is the first half of a surrogate pair. -/
def isLead (code : Nat) : Bool := 0xD800 ≤ code && code ≤ 0xDBFF

/-- Whether a code is the second half of a surrogate pair. -/
def isTrail (code : Nat) : Bool := 0xDC00 ≤ code && code ≤ 0xDFFF

/-- The text that codes spell, with surrogate pairs joined; none if a half stands alone. -/
def joinCodes? : List Nat → Option (List Char)
  | [] => some []
  | [code] => if isLead code || isTrail code then none else some [Char.ofNat code]
  | code :: next :: rest =>
    if isLead code then
      if isTrail next then
        (joinCodes? rest).map
          (Char.ofNat (0x10000 + (code - 0xD800) * 0x400 + (next - 0xDC00)) :: ·)
      else none
    else if isTrail code then none
    else (joinCodes? (next :: rest)).map (Char.ofNat code :: ·)

/-- Reads a string after its opening quote. -/
def readString (cs : List Char) : Option (Option (List Char) × List Char) :=
  (readCodes cs).map fun (codes, after) => (joinCodes? codes, after)

/-! ### Documents -/

mutual

/-- Reads a document off the front of a text. -/
def readValue : (fuel : Nat) → List Char → Option (Json × List Char)
  | 0, _ => none
  | fuel + 1, cs =>
    match skipBlanks cs with
    | [] => none
    | c :: rest =>
      if c = '"' then (readString rest).map fun (s, after) => (.string s, after)
      else if c = '[' then
        match skipBlanks rest with
        | ']' :: after => some (.array [], after)
        | _ => (readItems fuel rest).map fun (items, after) => (.array items, after)
      else if c = '\x7b' then
        match skipBlanks rest with
        | '\x7d' :: after => some (.object [], after)
        | _ => (readMembers fuel rest).map fun (members, after) => (.object members, after)
      else if c = 'n' then
        (dropWord? ['u', 'l', 'l'] rest).map fun after => (.null, after)
      else if c = 't' then
        (dropWord? ['r', 'u', 'e'] rest).map fun after => (.bool true, after)
      else if c = 'f' then
        (dropWord? ['a', 'l', 's', 'e'] rest).map fun after => (.bool false, after)
      else
        let literal := (c :: rest).takeWhile isNumberChar
        match Number.ofLiteral? literal with
        | none => none
        | some _ => some (.number literal, (c :: rest).dropWhile isNumberChar)

/-- Reads the items of an array up to its closing bracket. -/
def readItems : (fuel : Nat) → List Char → Option (List Json × List Char)
  | 0, _ => none
  | fuel + 1, cs =>
    match readValue fuel cs with
    | none => none
    | some (item, after) =>
      match skipBlanks after with
      | ']' :: rest => some ([item], rest)
      | ',' :: rest => (readItems fuel rest).map fun (items, tail) => (item :: items, tail)
      | _ => none

/-- Reads the members of an object up to its closing brace. -/
def readMembers :
    (fuel : Nat) → List Char → Option (List (Option (List Char) × Json) × List Char)
  | 0, _ => none
  | fuel + 1, cs =>
    match skipBlanks cs with
    | '"' :: keyText =>
      match readString keyText with
      | none => none
      | some (key, afterKey) =>
        match skipBlanks afterKey with
        | ':' :: valueText =>
          match readValue fuel valueText with
          | none => none
          | some (value, after) =>
            match skipBlanks after with
            | '\x7d' :: rest => some ([(key, value)], rest)
            | ',' :: rest =>
              (readMembers fuel rest).map fun (members, tail) => ((key, value) :: members, tail)
            | _ => none
        | _ => none
    | _ => none

end

/-- Reads a document that makes up a whole text. -/
def readChars? (cs : List Char) : Option Json :=
  match readValue (2 * cs.length + 1) cs with
  | some (j, rest) => if (skipBlanks rest).isEmpty then some j else none
  | none => none

/-- Reads a document that makes up a whole text. -/
def read? (s : String) : Option Json :=
  readChars? s.toList

end MetricFeed.Json
