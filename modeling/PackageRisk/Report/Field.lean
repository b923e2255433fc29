import PackageRisk.ScoreInput

/-!
# Fields of report documents and their spellings

Report documents spell most fields in several ways, and one document may use several of them at
once. The spellings of a field are listed in the order in which they are preferred.
-/

namespace PackageRisk

/-- A field of a report document. -/
inductive Field
  | name
  | version
  | freshness
  | allDependencies
  | immediateDependencies
  | authors
  | contributors
  | scoringDate
  | releaseDate
  | vulnerabilities (scope : Scope) (severity : Severity)
  deriving DecidableEq, Repr

namespace Field

/-- The keys that give the count of a severity, under its own name and, for medium, as moderate. -/
def countSpellings (scope : Scope) (severity : Severity) : List String :=
  let keys (title name : String) : List String :=
    [scope.name ++ "Vulns" ++ title ++ "_score", scope.name ++ "Vulns" ++ title ++ "_count",
      scope.name ++ "-vulns-" ++ name]
  keys severity.title severity.name ++
    (if severity = .medium then keys "Moderate" "moderate" else [])

/-- The keys that give a field, the preferred one first. -/
def spellings : Field → List String
  | name => ["package", "name", "package_name"]
  | version => ["version", "package_version"]
  | freshness => ["npmsio_score", "freshness_score", "freshnessScore"]
  | allDependencies => ["all_deps", "all_dep_count", "allDependencyCount", "all-deps"]
  | immediateDependencies =>
    ["immediate_deps", "direct_dep_count", "immediateDependencyCount", "immediate-deps"]
  | authors => ["authors"]
  | contributors => ["contributors"]
  | scoringDate => ["scoring_date", "scoringDate"]
  | releaseDate => ["release_date", "releaseDate"]
  | vulnerabilities scope severity => countSpellings scope severity

/-- The name of a field in messages, whichever spelling carried it. -/
def label : Field → String
  | name => "package"
  | version => "version"
  | freshness => "npmsio_score"
  | allDependencies => "all_deps"
  | immediateDependencies => "immediate_deps"
  | authors => "authors"
  | contributors => "contributors"
  | scoringDate => "scoring_date"
  | releaseDate => "release_date"
  | vulnerabilities scope severity => scope.name ++ "Vulns" ++ severity.title

end Field

end PackageRisk
