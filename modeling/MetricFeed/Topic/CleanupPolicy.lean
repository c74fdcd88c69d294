/-
MetricFeed/Topic/CleanupPolicy.lean

What a topic does with old records.  A policy is written as a comma-separated list of words; the
list is read as a set of words in lower case, so order, case, surrounding blanks, empty entries
and repetitions do not matter.
-/
import MetricFeed.Fault
import MetricFeed.Text.Blank
import MetricFeed.Text.Case

namespace MetricFeed

/-- What a topic does with old records. -/
inductive CleanupPolicy
  | delete
  | compact
  | compactDelete
  deriving DecidableEq, Repr

namespace CleanupPolicy

/-- The key of a topic's configuration that holds the policy. -/
def configKey : String := "cleanup.policy"

/-- The list that stands for a policy. -/
def word : CleanupPolicy → String
  | .delete => "delete"
  | .compact => "compact"
  | .compactDelete => "compact,delete"

/-! ### Sets of words -/

/-- A comma-separated list, entry by entry. -/
def splitAtCommas : List Char → List (List Char)
  | [] => [[]]
  | c :: rest =>
    match splitAtCommas rest with
    | [] => [[c]]
    | entry :: entries => if c = ',' then [] :: entry :: entries else (c :: entry) :: entries

/-- The words of a list: trimmed, in lower case, empty ones left out, in order of first
appearance. -/
def words (s : String) : List String :=
  ((splitAtCommas s.toList).map fun entry =>
    Text.lower (String.ofList (Text.trimChars entry))).filter (· ≠ "") |>.eraseDups

/-- Whether two lists have the same set of words. -/
def sameWords (a b : String) : Bool :=
  (words a).all ((words b).contains ·) && (words b).all ((words a).contains ·)

/-! ### Reading -/

/-- The policy that a list of words stands for. -/
def read (s : String) : Except SettingFault CleanupPolicy :=
  let ws := words s
  match ws.contains "delete", ws.contains "compact", ws.length with
  | true, false, 1 => .ok .delete
  | false, true, 1 => .ok .compact
  | true, true, 2 => .ok .compactDelete
  | _, _, _ =>
    .error (.invalidValue configKey s "must be 'delete', 'compact' or 'compact,delete'")

end CleanupPolicy

end MetricFeed
