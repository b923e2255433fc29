import Mathlib.Data.List.Forall2
import PackageRisk.OutputFormat
import PackageRisk.Proofs.ScoreSheet.Cells
import PackageRisk.Proofs.ScoreSheet.LineBreaks

/-!
# The table of the dependencies

A sheet has a section with the table of the direct dependencies. A reader takes the lines of the
table apart at their pipes and finds each dependency in the six cells of its line. Names and
versions hold neither pipes nor brackets nor line breaks, so nothing in them is taken for the end of
a cell, of a link or of a line, and the text of the section determines the dependencies.
-/

namespace PackageRisk

private theorem Banner.view_injective : Function.Injective Banner.view := by
  intro a b h
  cases a <;> cases b <;> first | rfl | exact absurd h (by decide)

/-- The letter of a grade names it. -/
theorem Grade.ofName?_letter (grade : Grade) : ofName? grade.letter = some grade := by
  cases grade <;> decide +kernel

namespace ScoreSheet.Markdown

/-! ### Reading cells -/

/-- The name that is shown in a link to the page of a package. -/
def linkedName? (text : String) : Option String :=
  match text.toList with
  | '[' :: rest =>
    let name := rest.takeWhile (· ≠ ']')
    if rest.dropWhile (· ≠ ']') = "](https://www.npmjs.com/package/".toList ++ name ++ [')'] then
      some (String.ofList name)
    else none
  | _ => none

/-- A banner in words, which may be missing. -/
def bannerView? (text : String) : Option (Option BannerView) :=
  match text.toList.splitOn ' ' with
  | [[]] => some none
  | [icon, styleClass] => some (some ⟨String.ofList styleClass, String.ofList icon⟩)
  | _ => none

/-- The row of a dependency, from a line with six cells. -/
def dependencyRow? (line : String) : Option DependencyRow :=
  match cells? line with
  | some [link, version, total, grade, allDependencies, banner] => do
    let name ← linkedName? link
    let total ← Points.ofText? total
    let grade ← Grade.ofName? grade
    let allDependencies ← Count.ofText? allDependencies
    let banner ← bannerView? banner
    some ⟨name, version, total, grade.letter, grade.styleClass, allDependencies, banner⟩
  | _ => none

private theorem cell_name (package : Package) : cell package.name = package.name :=
  cell_eq_self (package.not_mem_name (by decide +kernel))
    (package.not_mem_name (by decide +kernel))

private theorem cell_version (package : Package) : cell package.version = package.version :=
  cell_eq_self (package.not_mem_version (by decide +kernel))
    (package.not_mem_version (by decide +kernel))

/-- The name ends at the first closing bracket, and the page has the same name. -/
theorem linkedName?_packageLink (package : Package) :
    linkedName? (packageLink package.name) = some package.name := by
  have hname : ∀ c ∈ package.name.toList, decide (c ≠ ']') = true := by
    intro c hc
    refine decide_eq_true ?_
    rintro rfl
    exact package.not_mem_name (by decide +kernel) hc
  -- The link is cut at the first closing bracket, which is not one of the name.
  have hlist : (packageLink package.name).toList = '[' :: (package.name.toList ++
      ']' :: ("(https://www.npmjs.com/package/".toList ++ package.name.toList ++ [')'])) := by
    simp [packageLink, cell_name]
  rw [linkedName?, hlist]
  simp only [List.takeWhile_append_of_pos hname, List.dropWhile_append_of_pos hname]
  simp

private theorem bannerView?_bannerText (banner : Option Banner) :
    bannerView? (bannerText (banner.map Banner.view)) = some (banner.map Banner.view) := by
  rcases banner with _ | _ | _ | _ <;> decide +kernel

/-! ### Reading the table -/

/-- The line of a dependency is taken apart into six cells. -/
theorem cells?_dependencyRow (scored : ScoredPackage) :
    cells? (dependencyRow scored.row) =
      some [packageLink scored.report.package.name, scored.report.package.version,
        scored.score.total.text, scored.score.grade.letter,
        scored.report.input.allDependencies.text, bannerText (scored.banner.map Banner.view)] := by
  have hname : '|' ∉ scored.report.package.name.toList :=
    scored.report.package.not_mem_name (by decide +kernel)
  have hlink : '|' ∉ (packageLink scored.report.package.name).toList := by
    simp [packageLink, cell_name, hname]
  have hversion : '|' ∉ scored.report.package.version.toList :=
    scored.report.package.not_mem_version (by decide +kernel)
  have hgrade : '|' ∉ scored.score.grade.letter.toList := by
    cases scored.score.grade <;> decide
  have hbanner : '|' ∉ (bannerText (scored.banner.map Banner.view)).toList := by
    rcases scored.banner with _ | _ | _ | _ <;> decide
  rw [dependencyRow, ScoredPackage.row, cell_version, cells?_row (by simp)]
  simp only [List.forall_mem_cons]
  exact ⟨hlink, hversion, Points.not_mem_text (by decide) (by decide), hgrade,
    Count.not_mem_text (by decide), hbanner, by simp⟩

/-- A dependency is read back from its line. -/
theorem dependencyRow?_dependencyRow (scored : ScoredPackage) :
    dependencyRow? (dependencyRow scored.row) = some scored.row := by
  rw [dependencyRow?, cells?_dependencyRow]
  simp only [linkedName?_packageLink, Points.ofText?_text, Grade.ofName?_letter,
    Count.ofText?_text, bannerView?_bannerText]
  rfl

/-- A line that cannot be read is not the line of a dependency. -/
theorem not_mem_dependencyRows {line : String} (h : dependencyRow? line = none)
    (scored : List ScoredPackage) : line ∉ (scored.map ScoredPackage.row).map dependencyRow := by
  intro hline
  obtain ⟨_, hrow, rfl⟩ := List.mem_map.mp hline
  obtain ⟨dependency, -, rfl⟩ := List.mem_map.mp hrow
  rw [dependencyRow?_dependencyRow] at h
  cases h

/-- What is read in a line of the table about a dependency: its six cells, and in them the name, the
version, the total, the grade, the count of all dependencies and the banner. -/
structure ReadsDependency (line : String) (scored : ScoredPackage) : Prop where
  cells : cells? line = some [packageLink scored.report.package.name,
    scored.report.package.version, scored.score.total.text, scored.score.grade.letter,
    scored.report.input.allDependencies.text, bannerText (scored.banner.map Banner.view)]
  row : ∃ row, dependencyRow? line = some row ∧ row.name = scored.report.package.name ∧
    row.version = scored.report.package.version ∧ row.total = scored.score.total ∧
    Grade.ofName? row.grade = some scored.score.grade ∧
    row.allDependencies = scored.report.input.allDependencies ∧
    row.banner = scored.banner.map Banner.view

/-- A dependency is read in its line. -/
theorem readsDependency_dependencyRow (scored : ScoredPackage) :
    ReadsDependency (dependencyRow scored.row) scored where
  cells := cells?_dependencyRow scored
  row := ⟨scored.row, dependencyRow?_dependencyRow scored, rfl, rfl, rfl,
    Grade.ofName?_letter _, rfl, rfl⟩

/-- Dependencies with the same row have the same package, total, grade, count of all dependencies
and banner. -/
theorem facts_eq_of_row_eq {a b : ScoredPackage} (h : a.row = b.row) :
    a.report.package = b.report.package ∧ a.score.total = b.score.total ∧
      a.score.grade = b.score.grade ∧
      a.report.input.allDependencies = b.report.input.allDependencies ∧ a.banner = b.banner := by
  simp only [ScoredPackage.row, DependencyRow.mk.injEq] at h
  obtain ⟨hname, hversion, htotal, hletter, -, hcount, hbanner⟩ := h
  have hpackage : a.report.package = b.report.package := by
    generalize a.report.package = first, b.report.package = second at hname hversion
    obtain ⟨_, _, _, _⟩ := first
    obtain rfl : _ = second.name := hname
    obtain rfl : _ = second.version := hversion
    rfl
  have hgrade : a.score.grade = b.score.grade := by
    have hnamed := Grade.ofName?_letter a.score.grade
    rw [hletter, Grade.ofName?_letter] at hnamed
    exact (Option.some.inj hnamed).symm
  exact ⟨hpackage, htotal, hgrade, hcount, Option.map_injective Banner.view_injective hbanner⟩

/-! ### Reading the section -/

/-- The lines of a text. -/
def textLines (text : String) : List String := (Text.lines text.toList).map String.ofList

/-- The title of the section. -/
def dependenciesTitle : String := "## Direct Dependencies"

/-- The heading of the table. -/
def tableHeading : String := "| Package | Version | Score | Grade | All Deps | Banner |"

/-- The rule below the heading. -/
def tableRule : String := "|---------|---------|------:|:-----:|---------:|--------|"

/-- What stands in the place of a table without lines. -/
def noDependencies : String := "No direct dependency reports."

/-- The lines of the table in a section: those below the rule, up to the next empty line. -/
def tableLines (text : String) : List String :=
  (((textLines text).dropWhile (· ≠ tableRule)).drop 1).takeWhile (· ≠ "")

/-- The dependencies in the text of a section. -/
def dependencies? (text : String) : Option (List DependencyRow) :=
  (tableLines text).mapM dependencyRow?

/-- The text of the section of a sheet. -/
def dependencySection (sheet : ScoreSheet) : String := unlines (dependencies sheet.dependencies)

/-- What a reader finds in the text of a section: nothing but a table with one line of six cells for
each row, or a remark in its place if there is no row. -/
structure ShowsTable (text : String) (rows : List DependencyRow) : Prop where
  lines : textLines text = [dependenciesTitle, ""] ++
    (if rows = [] then [noDependencies] else [tableHeading, tableRule] ++ tableLines text) ++ [""]
  cells : ∀ line ∈ tableLines text, ∃ cells, cells? line = some cells ∧ cells.length = 6
  read : (tableLines text).map dependencyRow? = rows.map some
  remark : noDependencies ∈ textLines text ↔ rows = []
  heading : tableHeading ∉ textLines text ↔ rows = []

private theorem textLines_unlines {lines : List String} (h : breaksIn lines = 0) :
    textLines (unlines lines) = lines := by
  rw [textLines, lines_unlines_of_breaksIn h, List.map_map]
  simp [Function.comp_def]

section Section

variable (scored : List ScoredPackage)

private theorem textLines_dependencies :
    textLines (unlines (dependencies (scored.map ScoredPackage.row))) = [dependenciesTitle, ""] ++
      (if scored.map ScoredPackage.row = [] then [noDependencies]
      else [tableHeading, tableRule] ++ (scored.map ScoredPackage.row).map dependencyRow) ++
      [""] := by
  rw [textLines_unlines (breaksIn_dependencies scored), dependencies]
  simp only [List.isEmpty_iff]
  rfl

/-- The lines of the table are those of the dependencies. -/
theorem tableLines_dependencies :
    tableLines (unlines (dependencies (scored.map ScoredPackage.row))) =
      (scored.map ScoredPackage.row).map dependencyRow := by
  rw [tableLines, textLines_dependencies]
  split_ifs with hrows
  · rw [hrows]
    decide
  · have hlines : ∀ line ∈ (scored.map ScoredPackage.row).map dependencyRow,
        decide (line ≠ "") = true := by
      intro line hline
      refine decide_eq_true ?_
      rintro rfl
      exact not_mem_dependencyRows (by decide) scored hline
    have hfront : ∀ line ∈ [dependenciesTitle, "", tableHeading],
        decide (line ≠ tableRule) = true := by
      decide
    -- The rule is the fourth line, and the table goes on to the empty line at the end.
    have hsplit : [dependenciesTitle, ""] ++ ([tableHeading, tableRule] ++
        (scored.map ScoredPackage.row).map dependencyRow) ++ [""] =
        [dependenciesTitle, "", tableHeading] ++
          tableRule :: ((scored.map ScoredPackage.row).map dependencyRow ++ [""]) := rfl
    rw [hsplit, List.dropWhile_append_of_pos hfront, List.dropWhile_cons_of_neg (by decide),
      List.drop_one, List.tail_cons, List.takeWhile_append_of_pos hlines]
    exact List.append_nil _

private theorem showsTable_dependencies :
    ShowsTable (unlines (dependencies (scored.map ScoredPackage.row)))
      (scored.map ScoredPackage.row) where
  lines := by rw [textLines_dependencies, tableLines_dependencies]
  cells := by
    rw [tableLines_dependencies]
    simp only [List.forall_mem_map]
    exact fun dependency _ ↦ ⟨_, cells?_dependencyRow dependency, rfl⟩
  read := by
    rw [tableLines_dependencies]
    simp only [List.map_map, Function.comp_def, dependencyRow?_dependencyRow]
  remark := by
    have hlines : noDependencies ∉ (scored.map ScoredPackage.row).map dependencyRow :=
      not_mem_dependencyRows (by decide +kernel) scored
    have hothers : noDependencies ∉ [dependenciesTitle, "", tableHeading, tableRule, ""] := by
      decide
    rw [textLines_dependencies]
    split_ifs with hrows
    · exact iff_of_true (by decide) hrows
    · refine iff_of_false (fun hremark ↦ ?_) hrows
      simp only [List.mem_append, hlines, or_false] at hremark
      exact hothers (by simpa [or_assoc] using hremark)
  heading := by
    have hnone : tableHeading ∉ [dependenciesTitle, "", noDependencies, ""] := by decide
    rw [textLines_dependencies]
    split_ifs with hrows
    · exact iff_of_true hnone hrows
    · exact iff_of_false (by simp) hrows

/-- The table has one line for each dependency, in the same order. -/
theorem readsDependency_tableLines :
    List.Forall₂ ReadsDependency
      (tableLines (unlines (dependencies (scored.map ScoredPackage.row)))) scored := by
  rw [tableLines_dependencies, List.map_map, List.forall₂_map_left_iff, List.forall₂_same]
  exact fun dependency _ ↦ readsDependency_dependencyRow dependency

/-- The dependencies are read back from the section. -/
theorem dependencies?_dependencies :
    dependencies? (unlines (dependencies (scored.map ScoredPackage.row))) =
      some (scored.map ScoredPackage.row) := by
  rw [dependencies?, tableLines_dependencies]
  refine mapM_map_eq_some ?_
  simp only [List.forall_mem_map]
  exact fun dependency _ ↦ dependencyRow?_dependencyRow dependency

end Section

/-- The section of the dependencies is a block of lines of the sheet. -/
theorem dependencies_infix_lines (sheet : ScoreSheet) :
    dependencies sheet.dependencies <:+: lines sheet := by
  refine ⟨header sheet.imprint ++ package sheet.package, distribution sheet.distribution ++
    (sheet.gate.map (gate sheet.package.grade)).getD [], ?_⟩
  rw [lines, List.append_assoc _ (distribution _)]

end ScoreSheet.Markdown

namespace Assessment

open ScoreSheet.Markdown

/-- Every sheet has a section that shows its dependencies and nothing else: one line for each, in
the same order, in which a reader finds the name, the version, the total, the grade, the count of
all dependencies and the banner of the dependency. The text of the section gives all of the rows, so
sheets with the same section have the same rows, for dependencies that are the same in all of this.
-/
theorem dependencies_of_section (imprint : Imprint) (assessment : Assessment) :
    (∃ before after, OutputFormat.markdown.render (.ofAssessment imprint assessment) =
      before ++ dependencySection (.ofAssessment imprint assessment) ++ after) ∧
    ShowsTable (dependencySection (.ofAssessment imprint assessment))
      (assessment.dependencies.map ScoredPackage.row) ∧
    List.Forall₂ ReadsDependency
      (tableLines (dependencySection (.ofAssessment imprint assessment)))
      assessment.dependencies ∧
    dependencies? (dependencySection (.ofAssessment imprint assessment)) =
      some (assessment.dependencies.map ScoredPackage.row) ∧
    ∀ otherImprint (other : Assessment),
      dependencySection (.ofAssessment otherImprint other) =
        dependencySection (.ofAssessment imprint assessment) →
      other.dependencies.map ScoredPackage.row = assessment.dependencies.map ScoredPackage.row ∧
      List.Forall₂ (fun a b : ScoredPackage ↦ a.report.package = b.report.package ∧
          a.score.total = b.score.total ∧ a.score.grade = b.score.grade ∧
          a.report.input.allDependencies = b.report.input.allDependencies ∧ a.banner = b.banner)
        other.dependencies assessment.dependencies := by
  have hread (imprint : Imprint) (assessment : Assessment) :
      dependencies? (dependencySection (.ofAssessment imprint assessment)) =
        some (assessment.dependencies.map ScoredPackage.row) :=
    dependencies?_dependencies assessment.dependencies
  refine ⟨?_, showsTable_dependencies assessment.dependencies,
    readsDependency_tableLines assessment.dependencies, hread imprint assessment, ?_⟩
  · obtain ⟨before, after, hlines⟩ := dependencies_infix_lines (.ofAssessment imprint assessment)
    refine ⟨unlines before, unlines after, ?_⟩
    rw [OutputFormat.render, render, ← hlines, unlines_append, unlines_append, dependencySection]
  · intro otherImprint other hsection
    have hother := hread otherImprint other
    rw [hsection, hread imprint assessment] at hother
    have hrows := (Option.some.inj hother).symm
    refine ⟨hrows, ?_⟩
    rw [← List.forall₂_eq_eq_eq, List.forall₂_map_left_iff, List.forall₂_map_right_iff] at hrows
    exact hrows.imp fun _ _ ↦ facts_eq_of_row_eq

end Assessment

end PackageRisk
