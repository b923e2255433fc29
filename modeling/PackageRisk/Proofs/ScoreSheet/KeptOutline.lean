import PackageRisk.Proofs.Fallible
import PackageRisk.Proofs.ScoreSheet.LineBreaks
import PackageRisk.Report.Resolution

/-!
# Sheets that keep their outline

The Markdown text of a sheet has the lines of its outline, and one line more for every line break in
a date of the report. A report without such line breaks cannot add a heading, a table row or a
verdict to the text. A report with them can: the dates are written as they are.
-/

namespace PackageRisk

open Text (lineBreaks isLineBreak)

namespace ScoreSheet

open Markdown

/-- The lines of the Markdown text of a sheet. -/
def markdownLines (sheet : ScoreSheet) : List (List Char) :=
  Text.lines (OutputFormat.markdown.render sheet).toList

/-- The lines of the text are those of the outline, and no heading is among them but those of the
sheet, in their order. -/
structure KeepsOutline (sheet : ScoreSheet) : Prop where
  kinds : sheet.markdownLines.map LineKind.of = (Markdown.shape sheet).outline
  headings : sheet.markdownLines.filter (fun line ↦ LineKind.of line = .heading) =
    (["# Package Score Report",
        "## " ++ packageLink sheet.package.name ++ "@" ++ sheet.package.version,
        "### Vulnerabilities"] ++
      (if sheet.package.breakdown.isSome then ["### Score Explanation"] else []) ++
      ["## Direct Dependencies", "## Grade Distribution"] ++
      if sheet.gate.isSome then ["## Minimum Grade"] else []).map String.toList

/-- Without line breaks, a sheet with five grades keeps its outline. -/
theorem keepsOutline_of_breaksIn {sheet : ScoreSheet} (hgrades : sheet.distribution.length = 5)
    (hbreaks : breaksIn (Markdown.lines sheet) = 0) : sheet.KeepsOutline := by
  have hlines : sheet.markdownLines = (Markdown.lines sheet).map String.toList :=
    lines_unlines_of_breaksIn hbreaks
  constructor
  · rw [hlines, List.map_map]
    exact kinds_lines hgrades
  · rw [hlines, List.filter_map, ← headings_lines]
    rfl

/-- Every line break in the imprint and in the dates of the report makes a line more. -/
theorem length_markdownLines (imprint : Imprint) (request : Request) (report : Report) :
    (ofAssessment imprint (.ofReport request report)).markdownLines.length =
      (Markdown.shape (ofAssessment imprint (.ofReport request report))).outline.length +
        imprint.lineBreaks + report.details.lineBreaks := by
  rw [markdownLines, OutputFormat.render, render, length_lines_unlines, breaksIn_lines,
    ← kinds_lines rfl, Markdown.kinds, List.length_map, Nat.add_assoc]

private theorem not_keepsOutline {imprint : Imprint} {request : Request} {report : Report}
    (h : imprint.lineBreaks + report.details.lineBreaks ≠ 0) :
    ¬(ofAssessment imprint (.ofReport request report)).KeepsOutline := by
  intro hkeeps
  have hsame := congrArg List.length hkeeps.kinds
  rw [List.length_map, length_markdownLines] at hsame
  omega

/-- A sheet keeps its outline if and only if its imprint and the dates of the report are without
line breaks. -/
theorem keepsOutline_iff_lineBreaks (imprint : Imprint) (request : Request) (report : Report) :
    (ofAssessment imprint (.ofReport request report)).KeepsOutline ↔
      imprint.lineBreaks = 0 ∧ report.details.lineBreaks = 0 := by
  refine ⟨fun hkeeps ↦ ?_, fun ⟨himprint, hdates⟩ ↦ keepsOutline_of_breaksIn rfl ?_⟩
  · have hnone : imprint.lineBreaks + report.details.lineBreaks = 0 :=
      Decidable.of_not_not fun hsome ↦ not_keepsOutline hsome hkeeps
    omega
  · rw [breaksIn_lines, himprint, hdates]

/-- A sheet has as many lines as its outline, and one more for every line break in the imprint and
in the dates of the report. So the sheet keeps its outline, whatever else the report says, if and
only if these texts are without line breaks. The imprint that the program makes is, so in its sheets
it is a matter of the dates alone. -/
theorem keepsOutline_iff (imprint : Imprint) (request : Request) (report : Report) :
    (ofAssessment imprint (.ofReport request report)).markdownLines.length =
      (Markdown.shape (ofAssessment imprint (.ofReport request report))).outline.length +
        imprint.lineBreaks + report.details.lineBreaks ∧
    ((ofAssessment imprint (.ofReport request report)).KeepsOutline ↔
      imprint.lineBreaks = 0 ∧ report.details.lineBreaks = 0) ∧
    ∀ seconds nanos bytes,
      (ofAssessment (Program.imprint (Timestamp.text seconds nanos) (Program.reportId bytes))
        (.ofReport request report)).KeepsOutline ↔ report.details.lineBreaks = 0 := by
  refine ⟨length_markdownLines imprint request report,
    keepsOutline_iff_lineBreaks imprint request report, fun seconds nanos bytes ↦ ?_⟩
  rw [keepsOutline_iff_lineBreaks, Program.lineBreaks_imprint]
  exact and_iff_right rfl

/-- Every piece of a release date between its line breaks is a line of the sheet, the first one
after the label of the fact. -/
theorem mem_markdownLines_of_released {imprint : Imprint} {request : Request} {report : Report}
    {date : String} (hdate : report.details.releaseDate = some date) {piece : List Char}
    (hpiece : piece ∈ (fact "Released" date).toList.splitOnP isLineBreak) :
    piece ∈ (ofAssessment imprint (.ofReport request report)).markdownLines := by
  have hcard : (ofAssessment imprint (.ofReport request report)).package.releaseDate = some date :=
    hdate
  have hfact : fact "Released" date ∈
      facts (ofAssessment imprint (.ofReport request report)).package := by
    simp [facts, hcard]
  have hline : fact "Released" date ∈
      Markdown.lines (ofAssessment imprint (.ofReport request report)) := by
    simp [Markdown.lines, Markdown.package, hfact]
  rw [markdownLines, OutputFormat.render, render, lines_unlines]
  exact List.mem_flatMap.mpr ⟨_, hline, hpiece⟩

/-- A release date with a heading and a verdict in it. -/
private def forgedDate : String :=
  "2020-01-01\n\n## Minimum Grade\n\n✅ Grade A meets the minimum grade A."

private def forgedDocument : String :=
  "\x7b\"name\":\"a\",\"version\":\"1.0.0\",\"release_date\":\"2020-01-01\\n\\n" ++
    "## Minimum Grade\\n\\n✅ Grade A meets the minimum grade A.\"\x7d"

private def plainImprint : Imprint := ⟨"2024-01-01T00:00:00Z", "tool", "1", "id"⟩

/-- The sheet has no check for a minimum grade, and its text has the lines of one. -/
theorem not_keepsOutline_forged :
    ∃ report, Report.parse forgedDocument "r.json" = .ok report ∧
      (ofAssessment plainImprint (.ofReport ⟨false, false, none⟩ report)).gate = none ∧
      "## Minimum Grade".toList ∈
        (ofAssessment plainImprint (.ofReport ⟨false, false, none⟩ report)).markdownLines ∧
      ¬(ofAssessment plainImprint (.ofReport ⟨false, false, none⟩ report)).KeepsOutline := by
  have hfacts : (Report.parse forgedDocument "r.json").toOption.map (·.details.releaseDate) =
      some (some forgedDate) := by
    decide +kernel
  obtain ⟨report, hreport, hdate⟩ := Fallible.exists_eq_ok_of_map hfacts
  refine ⟨report, hreport, rfl, mem_markdownLines_of_released hdate (by decide +kernel),
    not_keepsOutline ?_⟩
  have hdates : lineBreaks forgedDate = 4 := by decide +kernel
  rw [ReportDetails.lineBreaks, hdate, optionalBreaks, Option.map_some, Option.getD_some, hdates]
  omega

end ScoreSheet

end PackageRisk
