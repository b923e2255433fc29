import PackageRisk.Json.Printer
import PackageRisk.ScoreSheet

/-!
# Score sheets in JSON

A sheet is one JSON object. Members without a value are left out, and the grades of the direct
dependencies form an object of their own, in the order of their letters.
-/

namespace PackageRisk.ScoreSheet

/-- A count as a JSON number. -/
def countValue (count : Count) : Json.Value := .integer count.val

/-- A member that is left out if it has no value. -/
def optional {α : Type} (key : String) (value : α → Json.Value) (content : Option α) :
    Json.Members :=
  content.toList.map fun content ↦ (key, value content)

/-- The object of an imprint. -/
def imprintValue (imprint : Imprint) : Json.Value :=
  .object
    [("timestamp", .string imprint.timestamp),
      ("tool", .object
        [("name", .string imprint.toolName), ("version", .string imprint.toolVersion)]),
      ("reportId", .string imprint.reportId)]

/-- The object of vulnerability counts. -/
def countsValue (counts : VulnerabilityCounts) : Json.Value :=
  .object (Severity.all.map fun severity ↦ (severity.name, countValue (counts.get severity)))

/-- The object of a term. -/
def termValue (entry : Term) : Json.Value :=
  .object [("label", .string entry.label), ("delta", .integer entry.points.val)]

/-- The name of a banner. -/
def bannerValue (banner : BannerView) : Json.Value := .string banner.styleClass

/-- The object of the score card. -/
def packageValue (card : PackageCard) : Json.Value :=
  .object <|
    [("name", .string card.name), ("version", .string card.version),
      ("totalScore", .integer card.total.val), ("grade", .string card.grade),
      ("gradeClass", .string card.gradeClass)] ++
    optional "banner" bannerValue card.banner ++
    [("freshnessScore", .number (.float card.freshness)),
      ("allDependencyCount", countValue card.allDependencies),
      ("immediateDependencyCount", countValue card.immediateDependencies),
      ("directVulnerabilityCounts", countsValue card.direct),
      ("indirectVulnerabilityCounts", countsValue card.indirect)] ++
    optional "authors" countValue card.authors ++
    optional "contributors" countValue card.contributors ++
    optional "scoringDate" .string card.scoringDate ++
    optional "releaseDate" .string card.releaseDate ++
    optional "breakdown" (fun entries ↦ .array (entries.map termValue)) card.breakdown

/-- The object of a direct dependency. -/
def dependencyValue (row : DependencyRow) : Json.Value :=
  .object <|
    [("name", .string row.name), ("version", .string row.version),
      ("totalScore", .integer row.total.val), ("grade", .string row.grade),
      ("gradeClass", .string row.gradeClass),
      ("allDependencyCount", countValue row.allDependencies)] ++
    optional "banner" bannerValue row.banner

/-- The object of the grades. -/
def distributionValue (buckets : List (String × Nat)) : Json.Value :=
  .object ((Json.sortByKey buckets).map fun (grade, n) ↦ (grade, .integer n))

/-- The object of the check for a minimum grade. -/
def gateValue (view : GateView) : Json.Value :=
  .object [("grade", .string view.minGrade), ("passed", .boolean view.passed)]

/-- The object of a sheet. -/
def toJson (sheet : ScoreSheet) : Json.Value :=
  .object <|
    [("metadata", imprintValue sheet.imprint), ("package", packageValue sheet.package),
      ("dependencies", .array (sheet.dependencies.map dependencyValue)),
      ("gradeDistribution", distributionValue sheet.distribution)] ++
    optional "minGrade" gateValue sheet.gate

end PackageRisk.ScoreSheet
