import PackageRisk.Assessment

/-!
# Score sheets

A score sheet is what a rendered report shows: every text and number in its final form, free of the
rules that led to it. The formats render score sheets and nothing else.
-/

namespace PackageRisk

/-- Which program made a sheet, and when. -/
structure Imprint where
  timestamp : String
  toolName : String
  toolVersion : String
  reportId : String
  deriving DecidableEq, Repr

/-- A banner as it is shown. -/
structure BannerView where
  styleClass : String
  icon : String
  deriving DecidableEq, Repr

/-- The score card of the package. -/
structure PackageCard where
  name : String
  version : String
  total : Points
  grade : String
  gradeClass : String
  banner : Option BannerView
  freshness : Binary64
  allDependencies : Count
  immediateDependencies : Count
  direct : VulnerabilityCounts
  indirect : VulnerabilityCounts
  authors : Option Count
  contributors : Option Count
  scoringDate : Option String
  releaseDate : Option String
  breakdown : Option (List Term)
  deriving DecidableEq, Repr

/-- A row of the table of direct dependencies. -/
structure DependencyRow where
  name : String
  version : String
  total : Points
  grade : String
  gradeClass : String
  allDependencies : Count
  banner : Option BannerView
  deriving DecidableEq, Repr

/-- The outcome of the check for a minimum grade. -/
structure GateView where
  minGrade : String
  passed : Bool
  deriving DecidableEq, Repr

/-- All that a rendered report shows. -/
structure ScoreSheet where
  imprint : Imprint
  package : PackageCard
  dependencies : List DependencyRow
  /-- The grades with the numbers of their packages. -/
  distribution : List (String × Nat)
  gate : Option GateView
  deriving DecidableEq, Repr

/-- A banner as it is shown. -/
def Banner.view (banner : Banner) : BannerView := ⟨banner.name, banner.icon⟩

/-- The card of a scored package. -/
def ScoredPackage.card (scored : ScoredPackage) : PackageCard where
  name := scored.report.package.name
  version := scored.report.package.version
  total := scored.score.total
  grade := scored.score.grade.letter
  gradeClass := scored.score.grade.styleClass
  banner := scored.banner.map Banner.view
  freshness := scored.report.input.freshness
  allDependencies := scored.report.input.allDependencies
  immediateDependencies := scored.report.immediateDependencies
  direct := scored.report.input.direct
  indirect := scored.report.input.indirect
  authors := scored.report.details.authors
  contributors := scored.report.details.contributors
  scoringDate := scored.report.details.scoringDate
  releaseDate := scored.report.details.releaseDate
  breakdown := scored.score.breakdown

/-- The row of a scored dependency. -/
def ScoredPackage.row (scored : ScoredPackage) : DependencyRow where
  name := scored.report.package.name
  version := scored.report.package.version
  total := scored.score.total
  grade := scored.score.grade.letter
  gradeClass := scored.score.grade.styleClass
  allDependencies := scored.report.input.allDependencies
  banner := scored.banner.map Banner.view

namespace ScoreSheet

/-- The sheet of an assessment. -/
def ofAssessment (imprint : Imprint) (assessment : Assessment) : ScoreSheet where
  imprint := imprint
  package := assessment.package.card
  dependencies := assessment.dependencies.map ScoredPackage.row
  distribution := assessment.distribution.buckets.map fun (grade, n) ↦ (grade.letter, n)
  gate := assessment.minGrade.map fun grade ↦ ⟨grade.letter, !assessment.isBelowMinimum⟩

end ScoreSheet

end PackageRisk
