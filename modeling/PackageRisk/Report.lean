import PackageRisk.Package
import PackageRisk.ScoreInput

/-!
# Package reports

A report tells of a package what its score is computed from, some details, and the same of each of
its direct dependencies, as reports of their own.
-/

namespace PackageRisk

/-- Facts of a report that no score depends on. -/
structure ReportDetails where
  scoringDate : Option String
  releaseDate : Option String
  authors : Option Count
  contributors : Option Count
  immediateDependencies : Option Count
  deriving DecidableEq, Repr

/-- The report of a package, with those of its direct dependencies. -/
structure Report where
  package : Package
  input : ScoreInput
  details : ReportDetails
  dependencies : List Report
  deriving Repr

namespace Report

/-- The number of direct dependencies as reported, or else the number of their reports. -/
def immediateDependencies (report : Report) : Count :=
  report.details.immediateDependencies.getD (.clamp report.dependencies.length)

end Report

end PackageRisk
