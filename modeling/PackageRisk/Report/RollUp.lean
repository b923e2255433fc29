import PackageRisk.Report

/-!
# Rolling up dependencies

The totals of a package can be computed from the reports of its direct dependencies: each of these
counts itself and all its own dependencies, and its vulnerabilities of both scopes become indirect
ones of the package.
-/

namespace PackageRisk

namespace Report

/-- The number of all dependencies, from the reports of the direct ones. -/
def rolledDependencies (reports : List Report) : Count :=
  reports.foldl (fun sum report ↦ sum + 1 + report.input.allDependencies) 0

/-- The vulnerabilities in dependencies, from the reports of the direct ones. -/
def rolledVulnerabilities (reports : List Report) : VulnerabilityCounts :=
  reports.foldl (fun sum report ↦ sum + report.input.direct + report.input.indirect) 0

end Report

namespace ScoreInput

/-- The input of a package with the totals of its direct dependencies, if the freshness is
finite. -/
def aggregate? (freshness : Binary64) (direct : VulnerabilityCounts) (reports : List Report) :
    Option ScoreInput :=
  ofFacts? freshness (Report.rolledDependencies reports) direct
    (Report.rolledVulnerabilities reports)

/-- The input with its totals replaced by those of the direct dependencies. -/
def rollUp (input : ScoreInput) (reports : List Report) : ScoreInput :=
  { input with
    allDependencies := Report.rolledDependencies reports
    indirect := Report.rolledVulnerabilities reports }

/-- Aggregating the facts of an input gives its roll-up: the freshness is already known to be
finite. -/
theorem aggregate?_eq_some_rollUp (input : ScoreInput) (reports : List Report) :
    aggregate? input.freshness input.direct reports = some (input.rollUp reports) := by
  simp [aggregate?, ofFacts?, rollUp, input.finite]

end ScoreInput

end PackageRisk
