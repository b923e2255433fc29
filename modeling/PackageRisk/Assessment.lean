import PackageRisk.Banner
import PackageRisk.GradeDistribution
import PackageRisk.Report.RollUp
import PackageRisk.Score

/-!
# Assessing a report

An assessment scores the package of a report and each of its direct dependencies, and counts the
grades of the latter. It can use rolled-up totals in place of the stored ones, for the package
only. What happens on the way is told by events.
-/

namespace PackageRisk

/-- What is asked of an assessment. -/
structure Request where
  /-- Explain the score of the package. -/
  breakdown : Bool
  /-- Use the totals of the direct dependencies. -/
  aggregate : Bool
  /-- The worst grade that passes. -/
  minGrade : Option Grade
  deriving DecidableEq, Repr

/-- A report with its score and its banner. -/
structure ScoredPackage where
  report : Report
  score : Score
  banner : Option Banner
  deriving Repr

/-- The scores of a report. -/
structure Assessment where
  package : ScoredPackage
  /-- The direct dependencies, in the order of the report. -/
  dependencies : List ScoredPackage
  distribution : GradeDistribution
  minGrade : Option Grade
  deriving Repr

/-- What is told while a report is loaded and assessed. -/
inductive Event
  | waiting (source : String)
  | waitOver
  | loaded (package : Package) (dependencies : Nat)
  | nothingToAggregate
  | countDiffers (rolledUp stored : Count)
  | scored (package : Package) (grade : Grade) (dependencies : Nat)
  deriving DecidableEq, Repr

namespace Event

/-- A number of direct dependencies in words. -/
def dependencyWords (n : Nat) : String :=
  toString n ++ " direct dependenc" ++ (if n = 1 then "y" else "ies")

/-- The text of an event. -/
def message : Event → String
  | waiting source => "📖 Loading package report from: " ++ source
  | waitOver => ""
  | loaded package dependencies =>
    "✅ Loaded report for " ++ package.text ++ " (" ++ dependencyWords dependencies ++ ")"
  | nothingToAggregate =>
    "⚠️  Warning: --aggregate requested but the report has no dependency reports; using stored " ++
      "totals."
  | countDiffers rolledUp stored =>
    "🔁 Aggregated dependency count " ++ rolledUp.text ++ " differs from stored count " ++
      stored.text
  | scored package grade dependencies =>
    "📊 Scored " ++ package.text ++ " (grade " ++ grade.letter ++ ") and " ++
      dependencyWords dependencies

end Event

namespace ScoredPackage

/-- A report with the score and the banner of its input. -/
def ofReport (report : Report) (wantsBreakdown : Bool) : ScoredPackage :=
  { report
    score := .compute report.input wantsBreakdown
    banner := Banner.ofInput? report.input }

end ScoredPackage

namespace Assessment

/-- The input that the package of a report is scored from: the stored one, unless the roll-up is
asked for and there are dependencies. -/
def inputFor (request : Request) (report : Report) : ScoreInput :=
  if request.aggregate && !report.dependencies.isEmpty then
    report.input.rollUp report.dependencies
  else report.input

/-- The scores of a report. -/
def ofReport (request : Request) (report : Report) : Assessment :=
  let dependencies := report.dependencies.map (ScoredPackage.ofReport · false)
  { package := .ofReport { report with input := inputFor request report } request.breakdown
    dependencies
    distribution := .ofGrades (dependencies.map (·.score.grade))
    minGrade := request.minGrade }

/-- A worst grade was asked for, and the grade of the package is worse. -/
def isBelowMinimum (assessment : Assessment) : Bool :=
  assessment.minGrade.any assessment.package.score.grade.isWorseThan

/-- What there is to tell of the roll-up. -/
def rollUpEvents (request : Request) (report : Report) : List Event :=
  if !request.aggregate then []
  else if report.dependencies.isEmpty then [.nothingToAggregate]
  else
    let rolledUp := Report.rolledDependencies report.dependencies
    if rolledUp = report.input.allDependencies then []
    else [.countDiffers rolledUp report.input.allDependencies]

/-- What there is to tell of an assessed report. -/
def reportEvents (request : Request) (report : Report) (assessment : Assessment) : List Event :=
  .loaded report.package report.dependencies.length ::
    (rollUpEvents request report ++
      [.scored report.package assessment.package.score.grade assessment.dependencies.length])

/-- Assesses the report that was loaded from a source, and tells of it; a failure to load is passed
on. -/
def run {ε : Type} (source : String) (loaded : Except ε Report) (request : Request) :
    Except ε Assessment × List Event :=
  let waiting := [.waiting source, .waitOver]
  match loaded with
  | .error failure => (.error failure, waiting)
  | .ok report =>
    let assessment := ofReport request report
    (.ok assessment, waiting ++ reportEvents request report assessment)

end Assessment

end PackageRisk
