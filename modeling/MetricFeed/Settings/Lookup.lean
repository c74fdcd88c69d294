/-
MetricFeed/Settings/Lookup.lean

Where settings come from: a function from property names to raw texts.  Values may be held in a
map under the property names, or in environment variables under names derived from them.
-/
import MetricFeed.Fault
import MetricFeed.TextMap
import MetricFeed.Text.Blank
import MetricFeed.Text.Case
import MetricFeed.Text.Numeral

namespace MetricFeed

/-- The raw text of a property, if it is set. -/
abbrev Lookup := String → Option String

namespace Lookup

/-- The properties of a map. -/
def ofMap (properties : TextMap) : Lookup := properties.get?

/-- Dots and hyphens become underscores. -/
def underscored (s : String) : String :=
  String.ofList (s.toList.map fun c => if c = '.' ∨ c = '-' then '_' else c)

/-- The environment variable that holds a property. -/
def environmentName (property : String) : String :=
  Text.upper (underscored property)

/-- The properties of an environment. -/
def ofEnvironment (environment : String → Option String) : Lookup :=
  fun property => environment (environmentName property)

/-! ### Typed values -/

/-- The integer of a raw text, its blanks removed; a refusal quotes the text as it stands. -/
def integer (kind : Text.IntegerKind) (key raw : String) : Except SettingFault Int :=
  match Text.readInteger kind (Text.trim raw) with
  | .ok n => .ok n
  | .error fault => .error (.invalidValue key raw fault.message)

/-- The integer under a property, or a default if the property is not set. -/
def integerOr (l : Lookup) (kind : Text.IntegerKind) (key : String) (default : Int) :
    Except SettingFault Int :=
  match l key with
  | some raw => integer kind key raw
  | none => .ok default

/-- The truth value under a property, or a default if the property is not set. -/
def boolOr (l : Lookup) (key : String) (default : Bool) : Except SettingFault Bool :=
  match l key with
  | some raw =>
    match Text.readBool (Text.trim raw) with
    | some b => .ok b
    | none => .error (.invalidValue key raw "provided string was not `true` or `false`")
  | none => .ok default

end Lookup

end MetricFeed
