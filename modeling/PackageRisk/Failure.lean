import PackageRisk.Package

/-!
# Failures

Everything that a run can fail with, and how it is told. A failure may have causes, which are told
after it, from the outermost to the innermost.
-/

namespace PackageRisk

/-- How a run of the program ends. -/
inductive ExitCode
  | success
  | gradeBelowMinimum
  | invalidArguments
  | applicationError
  deriving DecidableEq, Repr

namespace ExitCode

/-- The number that the program ends with. -/
def number : ExitCode → Nat
  | success => 0
  | gradeBelowMinimum => 1
  | invalidArguments => 2
  | applicationError => 3

/-- The meaning of the code, with its number. -/
def text : ExitCode → String
  | success => "Success (0)"
  | gradeBelowMinimum => "Grade Below Minimum (1)"
  | invalidArguments => "Invalid Arguments (2)"
  | applicationError => "Application Error (3)"

end ExitCode

/-- What can go wrong between the source of a report and its scores. -/
inductive Failure
  | invalidInput (field reason : String)
  | unreadableReport (source details : String)
  | reportNotFound (name version : String)
  | reportPending (name version : String)
  | service (status : Nat) (details : String)
  | fileRead (path details : String)
  | fileWrite (path details : String)
  | validation (message : String)
  | package (fault : PackageFault)
  | context (message : String) (causes : List String)
  deriving DecidableEq, Repr

namespace Failure

/-- The text of a failure, most often with a hint. -/
def message : Failure → String
  | invalidInput field reason =>
    "Invalid score input: " ++ field ++ "\nReason: " ++ reason ++
      "\n\n💡 Hint: Counts must be non-negative integers and the freshness score a finite number"
  | unreadableReport source details =>
    "Failed to parse package report from " ++ source ++ "\nDetails: " ++ details ++
      "\n\n💡 Hint: Please verify that the report is the JSON returned by /api/v1/package"
  | reportNotFound name version =>
    "No package report found for " ++ name ++ "@" ++ version ++
      "\n\n💡 Hint: Check the package name and version, or start a scan on the website first"
  | reportPending name version =>
    "Package report for " ++ name ++ "@" ++ version ++ " is not ready yet" ++
      "\n\n💡 Hint: A scan is in progress; run the command again once it has finished"
  | service status details =>
    "Scoring API returned status " ++ toString status ++ "\nDetails: " ++ details ++
      "\n\n💡 Hint: Please verify the API URL and that the service is reachable"
  | fileRead path details =>
    "Failed to read file: " ++ path ++ "\nDetails: " ++ details ++
      "\n\n💡 Hint: Please verify that the file exists and you have read permissions"
  | fileWrite path details =>
    "Failed to write to file: " ++ path ++ "\nDetails: " ++ details ++
      "\n\n💡 Hint: Please verify that the directory exists and you have write permissions"
  | validation message => "Validation error: " ++ message
  | package fault => fault.message
  | context message _ => message

/-- The causes behind a failure, outermost first. -/
def causes : Failure → List String
  | context _ causes => causes
  | _ => []

end Failure

end PackageRisk
