import PackageRisk.Proofs.ScoreSheet.DependencyTable
import PackageRisk.Proofs.ScoreSheet.ExplanationTable
import PackageRisk.Proofs.Text.Pipes

/-!
# Rows that keep to their table

A row of a table is one line, with as many unescaped pipes as the heading of the table. The rows of
the explanation and of the dependencies show texts of the sheet. A text in a cell has its pipes
escaped, which leaves no unescaped pipe if none of its pipes was escaped before, and its line feeds
replaced, but not its carriage returns. The target of a link, a grade and a banner are written as
they are. So the rows keep to their tables for some texts and not for others.
-/

namespace PackageRisk

open Text (lineBreaks barePipes escapedPipes escapesNext pipesAfter)

namespace ScoreSheet.Markdown

/-! ### Pipes and line breaks of a row -/

/-- What is escaped after a character does not depend on whether it stands in a cell. -/
theorem escapesNext_cellChar (before : List Char) (c : Char) :
    escapesNext (before ++ cellChar c) = escapesNext (before ++ [c]) := by
  unfold cellChar
  split_ifs with hpipe hfeed
  · subst hpipe
    rw [List.append_cons, Text.escapesNext_concat, Text.escapesNext_concat before '|']
    rfl
  · subst hfeed
    rw [Text.escapesNext_concat, Text.escapesNext_concat]
    rfl
  · rfl

/-- A pipe that is escaped in the text is not escaped in the cell, and the other way round. -/
theorem pipesAfter_cellChar (before : List Char) (c : Char) :
    pipesAfter false before (cellChar c) = pipesAfter true before [c] := by
  unfold cellChar
  split_ifs with hpipe hfeed
  · subst hpipe
    simp [pipesAfter, Text.escapesNext_concat]
  · subst hfeed
    simp [pipesAfter]
  · simp [pipesAfter, hpipe]

/-- So the unescaped pipes of a cell are the escaped ones of its text. -/
theorem barePipes_cell (text : String) : barePipes (cell text) = escapedPipes text := by
  have hchars (other before chars : List Char) (h : escapesNext other = escapesNext before) :
      pipesAfter false other (chars.flatMap cellChar) = pipesAfter true before chars := by
    induction chars generalizing other before with
    | nil => rfl
    | cons c rest ih =>
      have hnext : escapesNext (other ++ cellChar c) = escapesNext (before ++ [c]) := by
        rw [escapesNext_cellChar, Text.escapesNext_concat, Text.escapesNext_concat, h]
      rw [List.flatMap_cons, Text.pipesAfter_append, ih _ _ hnext, pipesAfter_cellChar,
        Text.pipesAfter_congr [c] h, ← Text.pipesAfter_append, List.singleton_append]
  rw [barePipes, toList_cell]
  exact hchars [] [] text.toList rfl

private theorem barePipes_intercalate (first : String) (rest : List String) :
    barePipes (" | ".intercalate (first :: rest)) =
      rest.length + ((first :: rest).map barePipes).sum := by
  induction rest generalizing first with
  | nil => simp
  | cons next rest ih =>
    have hbar : barePipes " | " = 1 := by decide
    rw [String.intercalate_cons_cons, Text.barePipes_around (by decide) (by decide), hbar, ih]
    simp only [List.map_cons, List.sum_cons, List.length_cons]
    omega

/-- A row has a pipe on either side of each cell, and those that the cells have. -/
theorem barePipes_row (first : String) (rest : List String) :
    barePipes (row (first :: rest)) =
      rest.length + 2 + ((first :: rest).map barePipes).sum := by
  have hleft : barePipes "| " = 1 := by decide
  have hright : barePipes " |" = 1 := by decide
  rw [row, Text.barePipes_append_of_beginsPlain (by decide),
    Text.barePipes_append_of_not_escapesNext (by decide), barePipes_intercalate, hleft, hright]
  omega

/-! ### Texts in cells -/

/-- A text stays in its cell: it has neither an unescaped pipe nor a line break. -/
def FitsCell (text : String) : Prop := barePipes text = 0 ∧ lineBreaks text = 0

/-- A text stays in its cell once it has been escaped: no pipe of it is escaped already, and it has
no carriage return. -/
def FitsEscaped (text : String) : Prop := escapedPipes text = 0 ∧ '\r' ∉ text.toList

private theorem fitsCell_cell_iff {text : String} : FitsCell (cell text) ↔ FitsEscaped text := by
  rw [FitsCell, barePipes_cell, lineBreaks_cell_eq, List.count_eq_zero, FitsEscaped]

/-- A text without pipes and line breaks stays in its cell, escaped or not. -/
theorem fitsCell_of_not_mem {text : String} (hpipe : '|' ∉ text.toList)
    (hbreaks : lineBreaks text = 0) : FitsCell text :=
  ⟨(Text.pipes_eq_zero hpipe).1, hbreaks⟩

private theorem fitsEscaped_of_not_mem {text : String} (hpipe : '|' ∉ text.toList)
    (hbreaks : lineBreaks text = 0) : FitsEscaped text := by
  refine ⟨(Text.pipes_eq_zero hpipe).2, fun hmem ↦ ?_⟩
  have hnone := Text.lineBreaks_eq_zero_iff.mp hbreaks _ hmem
  cases hnone

private theorem fitsCell_points (p : Points) : FitsCell p.text :=
  fitsCell_of_not_mem (Points.not_mem_text (by decide) (by decide)) (Points.lineBreaks_text p)

private theorem fitsCell_signedPoints (p : Points) : FitsCell p.signedText :=
  fitsCell_of_not_mem (fun hmem ↦ (isPlainLabel_signedText p _ hmem).1 rfl)
    (Points.lineBreaks_signedText p)

private theorem fitsCell_count (count : Count) : FitsCell count.text :=
  fitsCell_of_not_mem (Count.not_mem_text (by decide)) (Count.lineBreaks_text count)

/-- Bold type adds nothing that could leave the cell. -/
theorem fitsCell_bold_iff {text : String} : FitsCell ("**" ++ text ++ "**") ↔ FitsCell text := by
  have hstars : barePipes "**" = 0 ∧ lineBreaks "**" = 0 := by decide
  rw [FitsCell, Text.barePipes_append_of_beginsPlain (by decide),
    Text.barePipes_append_of_not_escapesNext (by decide), Text.lineBreaks_append,
    Text.lineBreaks_append, hstars.1, hstars.2, Nat.zero_add, Nat.zero_add]
  rfl

/-- A link shows the name escaped and as it is, so of each pipe one of the two is not escaped. -/
theorem fitsCell_packageLink_iff {name : String} :
    FitsCell (packageLink name) ↔ '|' ∉ name.toList ∧ lineBreaks name = 0 := by
  have hpipes : barePipes "[" = 0 ∧ barePipes "](https://www.npmjs.com/package/" = 0 ∧
      barePipes ")" = 0 := by
    decide
  have hlinkPipes : barePipes (packageLink name) = name.toList.count '|' := by
    rw [packageLink, Text.barePipes_append_of_beginsPlain (by decide),
      Text.barePipes_around (by decide) (by decide),
      Text.barePipes_append_of_not_escapesNext (by decide), barePipes_cell, hpipes.1, hpipes.2.1,
      hpipes.2.2, ← Text.barePipes_add_escapedPipes]
    omega
  rw [FitsCell, hlinkPipes, lineBreaks_packageLink_eq_zero_iff, List.count_eq_zero]

/-- A row with as many cells as the heading has keeps to it if and only if each text stays in its
cell. -/
theorem fits_row_iff {heading first : String} {rest : List String}
    (hheading : barePipes heading = rest.length + 2) :
    lineBreaks (row (first :: rest)) = 0 ∧
        barePipes (row (first :: rest)) = barePipes heading ↔
      ∀ text ∈ first :: rest, FitsCell text := by
  have hpipes : barePipes (row (first :: rest)) = barePipes heading ↔
      ∀ text ∈ first :: rest, barePipes text = 0 := by
    rw [barePipes_row, hheading, Nat.add_eq_left, List.sum_eq_zero_iff_forall_eq_nat,
      List.forall_mem_map]
  rw [lineBreaks_row, breaksIn_eq_zero_iff, hpipes]
  constructor
  · intro h text htext
    exact ⟨h.2 text htext, h.1 text htext⟩
  · intro h
    exact ⟨fun text htext ↦ (h text htext).2, fun text htext ↦ (h text htext).1⟩

/-! ### Tables -/

/-- A table: its heading, the rule below it, and the rows. -/
structure Table where
  heading : String
  rule : String
  rows : List String
  deriving DecidableEq, Repr

namespace Table

/-- The lines of a table. -/
def lines (table : Table) : List String := table.heading :: table.rule :: table.rows

/-- A row is a single line with as many unescaped pipes as the heading. -/
def Fits (table : Table) (row : String) : Prop :=
  lineBreaks row = 0 ∧ barePipes row = barePipes table.heading

end Table

/-- The table of an explanation. -/
def explanationTable (entries : List Term) : Table :=
  ⟨"| Term | Points |", "|------|-------:|", breakdownRows entries⟩

/-- The table of the direct dependencies. -/
def dependencyTable (rows : List DependencyRow) : Table :=
  ⟨tableHeading, tableRule, rows.map dependencyRow⟩

/-- The tables of a sheet that show texts of any kind. -/
def textTables (sheet : ScoreSheet) : List Table :=
  (sheet.package.breakdown.map explanationTable).toList ++
    if sheet.dependencies = [] then [] else [dependencyTable sheet.dependencies]

/-- The tables stand in the text of the sheet as blocks of lines. -/
theorem lines_infix_of_mem_textTables {sheet : ScoreSheet} {table : Table}
    (h : table ∈ textTables sheet) : table.lines <:+: lines sheet := by
  rcases List.mem_append.mp h with hbreakdown | hdependencies
  · obtain ⟨entries, hentries, rfl⟩ := Option.map_eq_some_iff.mp (Option.mem_toList.mp hbreakdown)
    obtain ⟨before, between, after, hlines⟩ := lines_eq_of_breakdown hentries
    refine ⟨before ++ [scoreLine sheet.package] ++ between ++ ["### Score Explanation", ""],
      [""] ++ after, ?_⟩
    rw [hlines, breakdown, Table.lines, explanationTable]
    simp only [List.append_assoc, List.cons_append, List.nil_append]
  · split_ifs at hdependencies with hnone
    · cases hdependencies
    · rw [List.mem_singleton.mp hdependencies]
      refine List.IsInfix.trans ⟨["## Direct Dependencies", ""], [""], ?_⟩
        (dependencies_infix_lines sheet)
      rw [dependencies, if_neg (by simpa using hnone)]
      rfl

/-! ### Rows that fit -/

/-- The texts of a dependency leave its row in one piece. -/
structure FitsRow (dependency : DependencyRow) : Prop where
  name : '|' ∉ dependency.name.toList ∧ lineBreaks dependency.name = 0
  version : FitsEscaped dependency.version
  grade : FitsCell dependency.grade
  banner : FitsCell (bannerText dependency.banner)

private theorem fits_dependencyRow_iff {rows : List DependencyRow} {dependency : DependencyRow} :
    (dependencyTable rows).Fits (dependencyRow dependency) ↔ FitsRow dependency := by
  have hheading : barePipes tableHeading = 7 := by decide
  rw [Table.Fits, dependencyTable, dependencyRow, fits_row_iff hheading]
  simp only [List.forall_mem_cons, fitsCell_packageLink_iff, fitsCell_cell_iff, fitsCell_points,
    fitsCell_count, true_and]
  constructor
  · rintro ⟨hname, hversion, hgrade, hbanner, -⟩
    exact ⟨hname, hversion, hgrade, hbanner⟩
  · rintro ⟨hname, hversion, hgrade, hbanner⟩
    exact ⟨hname, hversion, hgrade, hbanner, by simp⟩

/-- The rows of an explanation fit its table if and only if the labels stay in their cells. -/
theorem fits_breakdownRows_iff {whole entries : List Term} :
    (∀ row ∈ breakdownRows entries, (explanationTable whole).Fits row) ↔
      ∀ entry ∈ entries, FitsEscaped entry.label := by
  have hheading : barePipes "| Term | Points |" = 3 := by decide
  have hterm (entry : Term) :
      (explanationTable whole).Fits (termRow entry) ↔ FitsEscaped entry.label := by
    rw [Table.Fits, explanationTable, termRow, fits_row_iff hheading]
    simp [fitsCell_cell_iff, fitsCell_signedPoints]
  have htotal (entry : Term) :
      (explanationTable whole).Fits (totalRow entry) ↔ FitsEscaped entry.label := by
    rw [Table.Fits, explanationTable, totalRow, fits_row_iff hheading]
    simp [fitsCell_bold_iff, fitsCell_cell_iff, fitsCell_points]
  induction entries with
  | nil => simp [breakdownRows]
  | cons entry rest ih =>
    rw [breakdownRows_cons, List.forall_mem_cons, List.forall_mem_cons]
    refine and_congr ?_ ih
    split
    · exact htotal entry
    · exact hterm entry

/-- The rows of all tables fit. -/
def RowsFit (sheet : ScoreSheet) : Prop :=
  ∀ table ∈ textTables sheet, ∀ row ∈ table.rows, table.Fits row

private theorem rowsFit_iff {sheet : ScoreSheet} :
    RowsFit sheet ↔
      (∀ entry ∈ sheet.package.breakdown.getD [], FitsEscaped entry.label) ∧
        ∀ dependency ∈ sheet.dependencies, FitsRow dependency := by
  have hexplanation : (∀ table ∈ (sheet.package.breakdown.map explanationTable).toList,
      ∀ row ∈ table.rows, table.Fits row) ↔
        ∀ entry ∈ sheet.package.breakdown.getD [], FitsEscaped entry.label := by
    cases sheet.package.breakdown with
    | none => simp
    | some entries =>
      rw [Option.map_some, Option.toList_some, List.forall_mem_singleton]
      exact fits_breakdownRows_iff
  have hdependencies : (∀ table ∈ (if sheet.dependencies = [] then []
      else [dependencyTable sheet.dependencies]), ∀ row ∈ table.rows, table.Fits row) ↔
        ∀ dependency ∈ sheet.dependencies, FitsRow dependency := by
    split_ifs with hnone
    · simp [hnone]
    · rw [List.forall_mem_singleton]
      exact List.forall_mem_map.trans (forall₂_congr fun _ _ ↦ fits_dependencyRow_iff)
  rw [RowsFit, textTables, List.forall_mem_append, hexplanation, hdependencies]

/-! ### Sheets of assessments -/

/-- Every entry of an explanation has a label of the program. -/
theorem fitsEscaped_label {report : Report} {wantsBreakdown : Bool} {entry : Term}
    (h : entry ∈ (ScoredPackage.ofReport report wantsBreakdown).card.breakdown.getD []) :
    FitsEscaped entry.label := by
  cases wantsBreakdown with
  | false => cases h
  | true =>
    rcases List.mem_append.mp h with hterm | htotal
    · have hplain := Score.isPlainLabel_of_mem_terms hterm
      exact fitsEscaped_of_not_mem (fun hmem ↦ (hplain _ hmem).1 rfl)
        (Score.lineBreaks_label hterm)
    · have htotalLabel : '|' ∉ Score.totalLabel.toList ∧ lineBreaks Score.totalLabel = 0 := by
        decide
      rw [List.mem_singleton.mp htotal]
      exact fitsEscaped_of_not_mem htotalLabel.1 htotalLabel.2

/-- A dependency that was scored has a name and a version of the registry. -/
theorem fitsRow_row (scored : ScoredPackage) : FitsRow scored.row where
  name := ⟨scored.report.package.not_mem_name (by decide +kernel),
    scored.report.package.lineBreaks_name⟩
  version := fitsEscaped_of_not_mem (scored.report.package.not_mem_version (by decide +kernel))
    scored.report.package.lineBreaks_version
  grade := by
    have hpipe : '|' ∉ scored.score.grade.letter.toList := by
      cases scored.score.grade <;> decide
    exact fitsCell_of_not_mem hpipe scored.score.grade.lineBreaks_letter
  banner := by
    have hpipe : '|' ∉ (bannerText (scored.banner.map Banner.view)).toList := by
      rcases scored.banner with _ | _ | _ | _ <;> decide
    exact fitsCell_of_not_mem hpipe (lineBreaks_bannerText scored.banner)

private theorem rowsFit_ofAssessment (imprint : Imprint) (request : Request) (report : Report) :
    RowsFit (ofAssessment imprint (.ofReport request report)) := by
  refine rowsFit_iff.mpr ⟨fun entry hentry ↦ fitsEscaped_label hentry, ?_⟩
  intro dependency hdependency
  obtain ⟨scored, -, rfl⟩ := List.mem_map.mp hdependency
  exact fitsRow_row scored

end ScoreSheet.Markdown

namespace ScoreSheet

open Markdown

/-- The tables of the explanation and of the dependencies stand in the text of a sheet as blocks of
lines. Their rows are single lines with as many unescaped pipes as the heading if and only if the
texts of the sheet leave them in one piece: no label and no version has an escaped pipe or a
carriage return, no name has a pipe or a line break, and no grade and no banner has an unescaped
pipe or a line break. The texts of an assessment do. -/
theorem rows_fit_iff (sheet : ScoreSheet) :
    (∀ table ∈ textTables sheet, table.lines <:+: Markdown.lines sheet) ∧
    ((∀ table ∈ textTables sheet, ∀ row ∈ table.rows,
        lineBreaks row = 0 ∧ barePipes row = barePipes table.heading) ↔
      (∀ entry ∈ sheet.package.breakdown.getD [], FitsEscaped entry.label) ∧
        ∀ dependency ∈ sheet.dependencies, FitsRow dependency) ∧
    ∀ imprint request report, RowsFit (ofAssessment imprint (.ofReport request report)) :=
  ⟨fun _ htable ↦ lines_infix_of_mem_textTables htable, rowsFit_iff, rowsFit_ofAssessment⟩

/-- A dependency with a pipe in its name. -/
private def pipedDependency : DependencyRow :=
  ⟨"left|pad", "1.3.0", .clamp 35, "D", "score-d", 0, none⟩

private def pipedSheet : ScoreSheet where
  imprint := ⟨"2024-01-01T00:00:00Z", "depscore", "0.1.0", "urn:uuid:1"⟩
  package := ⟨"a", "1.0.0", .clamp 62, "B", "score-b", none, .zero, 1, 1, 0, 0, none, none, none,
    none, none⟩
  dependencies := [pipedDependency]
  distribution := []
  gate := none

/-- The pipe of the name is escaped in the label of the link, but not in its target. -/
theorem not_rowsFit_piped :
    "| [left\\|pad](https://www.npmjs.com/package/left|pad) | 1.3.0 | 35 | D | 0 |  |" ∈
      Markdown.lines pipedSheet ∧
    ¬RowsFit pipedSheet := by
  constructor
  · decide +kernel
  · intro h
    have hrow := (rowsFit_iff.mp h).2 pipedDependency (by simp [pipedSheet])
    exact absurd hrow.name.1 (by decide)

end ScoreSheet

end PackageRisk
