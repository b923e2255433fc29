import PackageRisk.ScoreSheet

/-!
# Score sheets in Markdown

A sheet is written section by section, and a section line by line. Texts in table cells have their
pipes escaped and their line breaks replaced; the targets of links and the dates are written as they
are.
-/

namespace PackageRisk.ScoreSheet.Markdown

/-- A text for a table cell: pipes are escaped and line breaks become spaces. -/
def cell (text : String) : String :=
  String.ofList (text.toList.flatMap fun c ↦
    if c = '|' then ['\\', '|'] else if c = '\n' then [' '] else [c])

/-- A link to the page of a package in the registry. -/
def packageLink (name : String) : String :=
  "[" ++ cell name ++ "](https://www.npmjs.com/package/" ++ name ++ ")"

/-- A banner in words; nothing if there is none. -/
def bannerText : Option BannerView → String
  | none => ""
  | some banner => banner.icon ++ " " ++ banner.styleClass

/-- A table row of cells. -/
def row (cells : List String) : String := "| " ++ " | ".intercalate cells ++ " |"

/-- The title and the imprint. -/
def header (imprint : Imprint) : List String :=
  ["# Package Score Report", "",
    "Generated by " ++ imprint.toolName ++ " " ++ imprint.toolVersion ++ " at " ++
      imprint.timestamp ++ " (" ++ imprint.reportId ++ ")", ""]

/-- A line of the score card. -/
def fact (label value : String) : String := "- **" ++ label ++ ":** " ++ value

/-- The facts of the score card; those that are not known are left out. -/
def facts (card : PackageCard) : List String :=
  [fact "Score" (card.total.text ++ " (grade **" ++ card.grade ++ "**, `" ++ card.gradeClass ++
    "`)")] ++
  (card.banner.toList.map fun banner ↦ fact "Banner" (bannerText (some banner))) ++
  [fact "Freshness score" (Decimal.prose.write card.freshness),
    fact "Dependencies" (card.immediateDependencies.text ++ " immediate, " ++
      card.allDependencies.text ++ " total")] ++
  (card.authors.toList.map fun n ↦ fact "Authors" n.text) ++
  (card.contributors.toList.map fun n ↦ fact "Contributors" n.text) ++
  (card.releaseDate.toList.map fun date ↦ fact "Released" date) ++
  (card.scoringDate.toList.map fun date ↦ fact "Scored" date)

/-- The table of the vulnerabilities. -/
def vulnerabilities (direct indirect : VulnerabilityCounts) : List String :=
  ["### Vulnerabilities", "", "| Severity | Direct | Indirect |",
    "|----------|-------:|---------:|"] ++
  (Severity.all.map fun severity ↦
    row [severity.title, (direct.get severity).text, (indirect.get severity).text]) ++
  [""]

/-- A row for a term. -/
def termRow (entry : Term) : String := row [cell entry.label, entry.points.signedText]

/-- The row for the total, in bold type. -/
def totalRow (entry : Term) : String :=
  row ["**" ++ cell entry.label ++ "**", "**" ++ entry.points.text ++ "**"]

/-- The rows of an explanation, the last entry being the total. -/
def breakdownRows : List Term → List String
  | [] => []
  | [total] => [totalRow total]
  | entry :: rest => termRow entry :: breakdownRows rest

/-- The explanation of the score. -/
def breakdown (entries : List Term) : List String :=
  ["### Score Explanation", "", "| Term | Points |", "|------|-------:|"] ++
    breakdownRows entries ++ [""]

/-- The score card of the package. -/
def package (card : PackageCard) : List String :=
  ["## " ++ packageLink card.name ++ "@" ++ card.version, ""] ++ facts card ++ [""] ++
    vulnerabilities card.direct card.indirect ++ (card.breakdown.map breakdown).getD []

/-- A row for a direct dependency. -/
def dependencyRow (dependency : DependencyRow) : String :=
  row [packageLink dependency.name, cell dependency.version, dependency.total.text,
    dependency.grade, dependency.allDependencies.text, bannerText dependency.banner]

/-- The table of the direct dependencies. -/
def dependencies (rows : List DependencyRow) : List String :=
  ["## Direct Dependencies", ""] ++
    (if rows.isEmpty then ["No direct dependency reports."]
    else
      ["| Package | Version | Score | Grade | All Deps | Banner |",
        "|---------|---------|------:|:-----:|---------:|--------|"] ++ rows.map dependencyRow) ++
    [""]

/-- The table of the grades of the direct dependencies. -/
def distribution (buckets : List (String × Nat)) : List String :=
  ["## Grade Distribution", "", "| Grade | Packages |", "|:-----:|---------:|"] ++
    (buckets.map fun (grade, n) ↦ row [grade, toString n]) ++ [""]

/-- The outcome of the check for a minimum grade. -/
def gate (grade : String) (view : GateView) : List String :=
  ["## Minimum Grade", "",
    if view.passed then "✅ Grade " ++ grade ++ " meets the minimum grade " ++ view.minGrade ++ "."
    else "❌ Grade " ++ grade ++ " is worse than the minimum grade " ++ view.minGrade ++ "."]

/-- All lines of a sheet. -/
def lines (sheet : ScoreSheet) : List String :=
  header sheet.imprint ++ package sheet.package ++ dependencies sheet.dependencies ++
    distribution sheet.distribution ++ (sheet.gate.map (gate sheet.package.grade)).getD []

/-- Lines as one text, each with a line break at its end. -/
def unlines (lines : List String) : String := String.join (lines.map (· ++ "\n"))

/-- The Markdown text of a sheet. -/
def render (sheet : ScoreSheet) : String := unlines (lines sheet)

end PackageRisk.ScoreSheet.Markdown
