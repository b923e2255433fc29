import PackageRisk.Proofs.ScoreSheet.Decoding
import PackageRisk.Proofs.ScoreSheet.Sections

/-!
# The grades of the dependencies on a sheet

How many direct dependencies have which grade is told by the distribution of an assessment, by the
buckets of its sheet, by an object of the JSON text and by a table of the Markdown text. All of them
have the five grades, best first, with the numbers of the rows of the sheet.
-/

namespace PackageRisk

private theorem Grade.letter_inj {grade other : Grade} :
    grade.letter = other.letter ↔ grade = other := by
  cases grade <;> cases other <;> decide

namespace Assessment

/-- The number of direct dependencies with a grade. -/
def rowsWith (assessment : Assessment) (grade : Grade) : Nat :=
  assessment.dependencies.countP fun row ↦ row.score.grade = grade

private theorem count_map_grade (assessment : Assessment) (grade : Grade) :
    (assessment.dependencies.map (·.score.grade)).count grade = assessment.rowsWith grade := by
  rw [List.count, List.countP_map, rowsWith]
  rfl

/-- The distribution of an assessment is that of the grades of its dependencies. -/
theorem distribution_ofReport (request : Request) (report : Report) :
    (ofReport request report).distribution =
      .ofGrades ((ofReport request report).dependencies.map (·.score.grade)) := rfl

/-- The grades of the dependencies do not depend on what is requested. -/
theorem map_grade_dependencies (request : Request) (report : Report) :
    (ofReport request report).dependencies.map (·.score.grade) =
      report.dependencies.map fun dependency ↦ (Score.compute dependency.input false).grade := by
  rw [ofReport, List.map_map]
  rfl

private theorem count_distribution_ofReport (request : Request) (report : Report) (grade : Grade) :
    (ofReport request report).distribution.count grade =
      (ofReport request report).rowsWith grade := by
  rw [distribution_ofReport, GradeDistribution.count_ofGrades, count_map_grade]

private theorem total_distribution_ofReport (request : Request) (report : Report) :
    (ofReport request report).distribution.total =
      (ofReport request report).dependencies.length := by
  rw [distribution_ofReport, GradeDistribution.total_ofGrades, List.length_map]

/-- Reports with the same dependencies, in whatever order, have the same distribution. -/
theorem distribution_ofReport_perm {report other : Report}
    (h : other.dependencies.Perm report.dependencies) (request otherRequest : Request) :
    (ofReport otherRequest other).distribution = (ofReport request report).distribution := by
  rw [distribution_ofReport, distribution_ofReport, map_grade_dependencies, map_grade_dependencies]
  exact GradeDistribution.ofGrades_perm (h.map _)

end Assessment

namespace ScoreSheet

open Json

/-- The object of the grades stands under its key. -/
theorem lookup_distribution (sheet : ScoreSheet) :
    lookup (present sheet.entries) "gradeDistribution" =
      some (distributionValue sheet.distribution) := by
  rw [lookup_present sheet.nodup_entries]
  rfl

/-- The letters of the grades are in the order of keys already. -/
theorem asRead_distributionValue (count : Grade → Nat) :
    (distributionValue (Grade.all.map fun grade ↦ (grade.letter, count grade))).asRead =
      .object (Grade.all.map fun grade ↦ (grade.letter, .integer (count grade))) := by
  have hsorted : sortByKey (Grade.all.map fun grade ↦ (grade.letter, count grade)) =
      Grade.all.map fun grade ↦ (grade.letter, count grade) := by
    simp +decide only [sortByKey, insertByKey, Grade.all, Grade.letter, List.map_cons,
      List.map_nil, List.foldl_cons, List.foldl_nil, if_false]
  rw [distributionValue, hsorted, asRead_object]
  rfl

/-- The numbers of direct dependencies with each grade, wherever a sheet tells them. -/
structure Tallies (sheet : ScoreSheet) (assessment : Assessment) : Prop where
  rows (grade : Grade) : sheet.dependencies.countP (fun row ↦ row.grade = grade.letter) =
    assessment.rowsWith grade
  buckets : sheet.distribution =
    [("A", assessment.rowsWith .a), ("B", assessment.rowsWith .b), ("C", assessment.rowsWith .c),
      ("D", assessment.rowsWith .d), ("E", assessment.rowsWith .e)]
  sum : (sheet.distribution.map (·.2)).sum = sheet.dependencies.length
  json : ∃ members, read (OutputFormat.json.render sheet) = .ok (.object members) ∧
    lookup members "gradeDistribution" = some (.object
      [("A", .integer (assessment.rowsWith .a)), ("B", .integer (assessment.rowsWith .b)),
        ("C", .integer (assessment.rowsWith .c)), ("D", .integer (assessment.rowsWith .d)),
        ("E", .integer (assessment.rowsWith .e))])
  markdown : ∃ before after, OutputFormat.markdown.render sheet = Markdown.unlines (before ++
    ["## Grade Distribution", "", "| Grade | Packages |", "|:-----:|---------:|",
      "| A | " ++ toString (assessment.rowsWith .a) ++ " |",
      "| B | " ++ toString (assessment.rowsWith .b) ++ " |",
      "| C | " ++ toString (assessment.rowsWith .c) ++ " |",
      "| D | " ++ toString (assessment.rowsWith .d) ++ " |",
      "| E | " ++ toString (assessment.rowsWith .e) ++ " |", ""] ++ after)

private theorem distribution_ofAssessment (imprint : Imprint) (request : Request)
    (report : Report) : (ofAssessment imprint (.ofReport request report)).distribution =
      Grade.all.map fun grade ↦
        (grade.letter, (Assessment.ofReport request report).rowsWith grade) := by
  rw [ofAssessment, GradeDistribution.buckets, List.map_map]
  simp only [Function.comp_def, Assessment.count_distribution_ofReport]

private theorem tallies_ofAssessment (imprint : Imprint) (request : Request) {report : Report}
    (hlength : report.dependencies.length < 2 ^ 64) :
    (ofAssessment imprint (.ofReport request report)).Tallies (.ofReport request report) where
  rows grade := by
    rw [ofAssessment, List.countP_map, Assessment.rowsWith]
    simp only [Function.comp_def, ScoredPackage.row, Grade.letter_inj]
  buckets := distribution_ofAssessment imprint request report
  sum := by
    rw [distribution_ofAssessment, List.map_map, ofAssessment, List.length_map,
      ← Assessment.total_distribution_ofReport, GradeDistribution.total_eq_sum]
    exact congrArg List.sum (List.map_congr_left fun grade _ ↦
      (Assessment.count_distribution_ofReport request report grade).symm)
  json := by
    have hread := read_render_eq (lt_of_mem_distribution hlength request imprint)
    rw [toJson_eq, asRead_object] at hread
    refine ⟨_, hread, ?_⟩
    rw [lookup_map, lookup_distribution, distribution_ofAssessment, Option.map_some,
      asRead_distributionValue]
    rfl
  markdown := by
    obtain ⟨before, after, hlines⟩ := Markdown.distribution_infix_lines
      (ofAssessment imprint (.ofReport request report))
    refine ⟨before, after, ?_⟩
    rw [OutputFormat.render, Markdown.render, ← hlines, distribution_ofAssessment]
    simp only [Markdown.distribution, List.map_map, Function.comp_def, Markdown.row_pair]
    rfl

end ScoreSheet

namespace Assessment

/-- The distribution of an assessment describes the rows of the direct dependencies: each grade is
counted as often as it is in the rows, and no row is left out. Only the dependencies count, in
whatever order: every report that has the same ones leads to the same distribution, whatever its
package. Every sheet of the assessment, in either format, has the five grades with these numbers. -/
theorem distribution_of_run {ε : Type} {source : String} {loaded : Except ε Report}
    {request : Request} {assessment : Assessment}
    (hrun : (run source loaded request).1 = .ok assessment)
    (hlength : assessment.dependencies.length < 2 ^ 64) :
    (∀ grade, assessment.distribution.count grade = assessment.rowsWith grade) ∧
    assessment.distribution.total = assessment.dependencies.length ∧
    (∀ (otherSource : String) (other : Report) (otherRequest : Request),
      other.dependencies.Perm (assessment.dependencies.map (·.report)) →
      ∃ another, (run otherSource (.ok other : Except ε Report) otherRequest).1 = .ok another ∧
        another.distribution = assessment.distribution) ∧
    ∀ imprint, (ScoreSheet.ofAssessment imprint assessment).Tallies assessment := by
  obtain ⟨report, -, rfl⟩ := fst_run_eq_ok_iff.mp hrun
  rw [← List.length_map (·.report), map_report_dependencies] at hlength
  refine ⟨count_distribution_ofReport request report, total_distribution_ofReport request report,
    fun otherSource other otherRequest hperm ↦ ?_,
    fun imprint ↦ ScoreSheet.tallies_ofAssessment imprint request hlength⟩
  rw [map_report_dependencies] at hperm
  exact ⟨_, rfl, distribution_ofReport_perm hperm request otherRequest⟩

/-- Two of the three dependencies have grade A, and one has grade D; the package itself has E. -/
private def gradedDocument : String :=
  "\x7b\"name\":\"a\",\"version\":\"1\",\"freshnessScore\":0," ++
    "\"allDependencyCount\":30,\"dependencies\":[" ++
    "\x7b\"name\":\"b\",\"version\":\"2\",\"freshnessScore\":0.9\x7d," ++
    "\x7b\"name\":\"c\",\"version\":\"3\",\"freshnessScore\":0.1\x7d," ++
    "\x7b\"name\":\"d\",\"version\":\"4\",\"freshnessScore\":1\x7d]\x7d"

/-- The tally of this document leaves three grades without a dependency. -/
theorem distribution_of_run_graded :
    ∃ assessment, (run "r.json" (Report.parse gradedDocument "r.json") ⟨false, false, none⟩).1 =
        .ok assessment ∧
      assessment.dependencies.length < 2 ^ 64 ∧
      assessment.distribution = ⟨2, 0, 0, 1, 0⟩ ∧ assessment.rowsWith .a = 2 ∧
      assessment.distribution.total = 3 ∧
      (ScoreSheet.ofAssessment ⟨"", "", "", ""⟩ assessment).Tallies assessment := by
  have hfacts : (run "r.json" (Report.parse gradedDocument "r.json")
      ⟨false, false, none⟩).1.toOption.map (fun assessment ↦
        (assessment.dependencies.length, assessment.distribution)) =
      some (3, ⟨2, 0, 0, 1, 0⟩) := by
    decide +kernel
  obtain ⟨assessment, hrun, hfacts⟩ := Fallible.exists_eq_ok_of_map hfacts
  obtain ⟨hlength, hdistribution⟩ := Prod.mk.inj hfacts
  have hfits : assessment.dependencies.length < 2 ^ 64 := hlength ▸ by decide
  obtain ⟨hcount, htotal, -, htallies⟩ := distribution_of_run hrun hfits
  refine ⟨assessment, hrun, hfits, hdistribution, ?_, htotal.trans hlength, htallies _⟩
  rw [← hcount, hdistribution]
  rfl

end Assessment

end PackageRisk
