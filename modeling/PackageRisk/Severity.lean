import PackageRisk.Text.Blank
import PackageRisk.Text.CaseMap

/-!
# Severities of vulnerabilities

The four severities of an advisory, and the names under which reports give them. Names are compared
in lower case and without the blanks around them; "moderate" is another name of medium.
-/

namespace PackageRisk

/-- The severity of a vulnerability, most severe first. -/
inductive Severity
  | critical
  | high
  | medium
  | low
  deriving DecidableEq, Repr

namespace Severity

/-- All severities, most severe first. -/
def all : List Severity := [critical, high, medium, low]

/-- The place among all severities, counted from the most severe. -/
def rank : Severity → Nat
  | critical => 0
  | high => 1
  | medium => 2
  | low => 3

/-- The name in lower case. -/
def name : Severity → String
  | critical => "critical"
  | high => "high"
  | medium => "medium"
  | low => "low"

/-- The name with a capital. -/
def title : Severity → String
  | critical => "Critical"
  | high => "High"
  | medium => "Medium"
  | low => "Low"

/-- A name as it is compared: without blanks around it and in lower case. -/
def foldName (text : String) : String := String.ofList (Text.lower (Text.trim text.toList))

/-- The severity of a name. -/
def ofName? (text : String) : Option Severity :=
  let folded := foldName text
  if folded = "critical" then some critical
  else if folded = "high" then some high
  else if folded = "medium" ∨ folded = "moderate" then some medium
  else if folded = "low" then some low
  else none

/-- A name other than the severity's own, up to blanks and case. -/
def isAlias (severity : Severity) (text : String) : Bool := foldName text != severity.name

/-- The message for a text that names no severity. -/
def unknownMessage (text : String) : String :=
  "Unknown severity: " ++ text ++ ". Expected one of critical, high, medium (moderate), low"

/-- Every severity is in the list of all. -/
theorem mem_all (severity : Severity) : severity ∈ all := by
  cases severity <;> decide

end Severity

end PackageRisk
