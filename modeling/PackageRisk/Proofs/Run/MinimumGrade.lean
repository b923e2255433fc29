import PackageRisk.Proofs.Run.Session
import PackageRisk.Proofs.ScoreSheet.Decoding
import PackageRisk.Proofs.ScoreSheet.Sections
import PackageRisk.Proofs.Settings

/-!
# The minimum grade of a run

Whether the grade of the package reaches a minimum is told by the exit code, by a line for the user
and by the sheet, in either format. All of them tell the same, and the sheet is presented all the
same. What passes with a minimum passes with every worse one.
-/

namespace PackageRisk

/-! ### The minimum and the grade -/

/-- A grade that is not worse than a minimum is not worse than a worse one. -/
theorem Grade.isWorseThan_of_rank_le {grade min worse : Grade} (hle : min.rank ≤ worse.rank)
    (h : grade.isWorseThan min = false) : grade.isWorseThan worse = false := by
  unfold isWorseThan at h ⊢
  rw [decide_eq_false_iff_not] at h ⊢
  omega

private theorem ExitCode.number_eq_one_iff {code : ExitCode} :
    code.number = 1 ↔ code = .gradeBelowMinimum := by
  cases code <;> decide

namespace Session

private theorem exitCodeOf_eq_gradeBelowMinimum_iff {assessment : Assessment} :
    exitCodeOf assessment = .gradeBelowMinimum ↔ assessment.isBelowMinimum = true := by
  unfold exitCodeOf
  cases assessment.isBelowMinimum <;> decide

private theorem exitCodeOf_eq_success_iff {assessment : Assessment} :
    exitCodeOf assessment = .success ↔ assessment.isBelowMinimum = false := by
  unfold exitCodeOf
  cases assessment.isBelowMinimum <;> decide

private theorem number_exitCodeOf_eq_one_iff {assessment : Assessment} :
    (exitCodeOf assessment).number = 1 ↔ assessment.isBelowMinimum = true :=
  ExitCode.number_eq_one_iff.trans exitCodeOf_eq_gradeBelowMinimum_iff

namespace Course

variable {around : Surroundings} {line : CommandLine}

/-- The minimum that holds for the run. -/
def minimum (course : Course around line) : Option Grade := line.minimum course.config

/-- The roll-up was asked for. -/
def aggregates (course : Course around line) : Bool :=
  line.aggregate || course.config.aggregate.getD false

/-- The grade of the package, after the roll-up if it was asked for. -/
def grade (course : Course around line) : Grade :=
  (Score.compute (Assessment.inputFor ⟨false, course.aggregates, none⟩ course.report) false).grade

private theorem settings_minGrade (course : Course around line) :
    course.settings.minGrade = course.minimum :=
  (Settings.minimum_of_resolveGrade (Settings.resolve_eq_ok_iff.mp course.resolved).2.1).1

private theorem settings_aggregate (course : Course around line) :
    course.settings.aggregate = course.aggregates :=
  (Settings.resolve_eq_ok_iff.mp course.resolved).2.2.2.2.2

private theorem assessment_grade (course : Course around line) :
    course.assessment.package.score.grade = course.grade := by
  rw [grade, ← settings_aggregate]
  rfl

private theorem isBelowMinimum_assessment (course : Course around line) :
    course.assessment.isBelowMinimum = course.minimum.any course.grade.isWorseThan := by
  rw [Assessment.isBelowMinimum, assessment_grade, ← settings_minGrade]
  rfl

/-- The check as the sheet shows it. -/
theorem sheet_gate (course : Course around line) :
    course.sheet.gate = course.minimum.map fun min ↦
      ⟨min.letter, decide ((exitCodeOf course.assessment).number ≠ 1)⟩ := by
  have hpassed : (!course.assessment.isBelowMinimum) =
      decide ((exitCodeOf course.assessment).number ≠ 1) := by
    rw [Bool.eq_iff_iff, decide_eq_true_iff, Ne, number_exitCodeOf_eq_one_iff,
      Bool.not_eq_true', Bool.not_eq_true]
  rw [← settings_minGrade, ← hpassed]
  rfl

end Course

/-! ### What is told of the check -/

/-- The member of a JSON sheet that tells the check. -/
def gateMember (code : ExitCode) (minimum : Option Grade) : Option Json.Value :=
  minimum.map fun min ↦
    .object [("grade", .string min.letter), ("passed", .boolean (decide (code.number ≠ 1)))]

/-- The end of a Markdown sheet, which tells the check. -/
def closing (grade : Grade) (code : ExitCode) : Option Grade → String
  | none => ""
  | some min =>
    ScoreSheet.Markdown.unlines
      ["## Minimum Grade", "",
        if code.number = 1 then
          "❌ Grade " ++ grade.letter ++ " is worse than the minimum grade " ++ min.letter ++ "."
        else "✅ Grade " ++ grade.letter ++ " meets the minimum grade " ++ min.letter ++ "."]

/-- The lines for the user that tell the check. -/
def shortfall (grade : Grade) (code : ExitCode) (minimum : Option Grade) : List String :=
  if code.number = 1 then
    minimum.toList.map fun min ↦
      "❌ Grade " ++ grade.letter ++ " is worse than the minimum grade " ++ min.letter
  else []

/-- The exit code, the sheet in either format and the lines for the user tell the same of the check,
and the sheet is presented once. -/
structure Course.AgreesOn {around : Surroundings} {line : CommandLine} (course : Course around line)
    (code : ExitCode) (trace : Trace) : Prop where
  minimum_isSome_iff : course.minimum.isSome = true ↔
    line.minGrade.isSome = true ∨ course.config.minGrade.isSome = true
  fails_iff : code = .gradeBelowMinimum ↔
    ∃ min, course.minimum = some min ∧ course.grade.isWorseThan min = true
  passes (h : code ≠ .gradeBelowMinimum) : code = .success
  json (h : course.settings.format = .json) : ∃ members,
    course.text = (Json.Value.object members).document ∧
      Json.lookup members "minGrade" = gateMember code course.minimum
  json_read (h : course.settings.format = .json)
    (hlength : course.report.dependencies.length < 2 ^ 63) : ∃ members,
    Json.read course.text = .ok (.object members) ∧
      Json.lookup members "minGrade" = gateMember code course.minimum
  markdown (h : course.settings.format = .markdown) :
    course.text = ScoreSheet.Markdown.render { course.sheet with gate := none } ++
      closing course.grade code course.minimum
  output : trace.output = printed line.output course.text
  files : filesAfter around.files line.output course.text = .ok trace.files
  messages : trace.messages = course.told ++ completion line.output ++
    ["", Summary.line course.report.package.text course.assessment.package.score.total course.grade
      around.colors] ++ shortfall course.grade code course.minimum

section Agreement

variable {around : Surroundings} {line : CommandLine}

/-- The member of the sheet that is told as JSON. -/
theorem map_gateValue_sheet_gate (course : Course around line) :
    course.sheet.gate.map ScoreSheet.gateValue =
      gateMember (exitCodeOf course.assessment) course.minimum := by
  rw [course.sheet_gate, Option.map_map]
  rfl

private theorem json_of_course (course : Course around line) (h : course.settings.format = .json) :
    ∃ members, course.text = (Json.Value.object members).document ∧
      Json.lookup members "minGrade" =
        gateMember (exitCodeOf course.assessment) course.minimum := by
  refine ⟨ScoreSheet.present course.sheet.entries, ?_, ?_⟩
  · rw [Course.text, h, OutputFormat.render, ScoreSheet.toJson_eq]
  · rw [ScoreSheet.lookup_minGrade, map_gateValue_sheet_gate]

private theorem json_read_of_course (course : Course around line)
    (h : course.settings.format = .json) (hlength : course.report.dependencies.length < 2 ^ 63) :
    ∃ members, Json.read course.text = .ok (.object members) ∧
      Json.lookup members "minGrade" =
        gateMember (exitCodeOf course.assessment) course.minimum := by
  have hbuckets : ∀ bucket ∈ course.sheet.distribution, bucket.2 < 2 ^ 64 :=
    ScoreSheet.lt_of_mem_distribution (by omega) course.settings.request around.imprint
  have hread := ScoreSheet.read_render_eq hbuckets
  rw [ScoreSheet.toJson_eq, Json.asRead_object] at hread
  refine ⟨_, by rw [Course.text, h]; exact hread, ?_⟩
  rw [Json.lookup_map, ScoreSheet.lookup_minGrade,
    ScoreSheet.map_asRead ScoreSheet.gateValue fun _ ↦ rfl, map_gateValue_sheet_gate]

private theorem markdown_of_course (course : Course around line)
    (h : course.settings.format = .markdown) :
    course.text = ScoreSheet.Markdown.render { course.sheet with gate := none } ++
      closing course.grade (exitCodeOf course.assessment) course.minimum := by
  have hletter : course.sheet.package.grade = course.grade.letter :=
    congrArg Grade.letter course.assessment_grade
  rw [Course.text, h, OutputFormat.render, ScoreSheet.Markdown.render_eq, course.sheet_gate,
    hletter]
  congr 1
  cases course.minimum with
  | none => rfl
  | some min =>
    simp only [Option.map_some, Option.getD_some, ScoreSheet.Markdown.gate, closing]
    by_cases hcode : (exitCodeOf course.assessment).number = 1
    · simp [hcode]
    · simp [hcode]

private theorem verdict_assessment (course : Course around line) :
    verdict course.assessment around.colors =
      ["", Summary.line course.report.package.text course.assessment.package.score.total
        course.grade around.colors] ++
      shortfall course.grade (exitCodeOf course.assessment) course.minimum := by
  have hminimum : course.assessment.minGrade = course.minimum := course.settings_minGrade
  unfold verdict shortfall
  simp only [number_exitCodeOf_eq_one_iff, course.assessment_grade, hminimum]
  split_ifs
  · cases course.minimum <;> rfl
  · rfl

private theorem Course.agreesOn (course : Course around line) {files : FileSystem}
    (hfiles : filesAfter around.files line.output course.text = .ok files) :
    course.AgreesOn (exitCodeOf course.assessment)
      ⟨printed line.output course.text,
        course.told ++ completion line.output ++ verdict course.assessment around.colors,
        files⟩ where
  minimum_isSome_iff := by
    have hresolved := (Settings.resolve_eq_ok_iff.mp course.resolved).2.1
    rw [← course.settings_minGrade]
    exact (Settings.minimum_of_resolveGrade hresolved).2
  fails_iff := by
    rw [exitCodeOf_eq_gradeBelowMinimum_iff, course.isBelowMinimum_assessment, Option.any_eq_true]
  passes h := by
    rw [Ne, exitCodeOf_eq_gradeBelowMinimum_iff, Bool.not_eq_true] at h
    exact exitCodeOf_eq_success_iff.mpr h
  json := json_of_course course
  json_read := json_read_of_course course
  markdown := markdown_of_course course
  output := rfl
  files := hfiles
  messages := by
    rw [verdict_assessment, ← List.append_assoc]

/-! ### Worse minima -/

/-- The course of the run with another minimum on the command line. -/
def Course.withMinimum (course : Course around line) (min : Grade) :
    Course around { line with minGrade := some min } where
  config := course.config
  settings := { course.settings with minGrade := some min }
  source := course.source
  report := course.report
  configured := course.configured
  resolved := by
    obtain ⟨hformat, -, hrest⟩ := Settings.resolve_eq_ok_iff.mp course.resolved
    exact Settings.resolve_eq_ok_iff.mpr ⟨hformat, rfl, hrest⟩
  loaded := course.loaded

/-- Of two courses of one report, what passes in the first passes in the second with a minimum that
is no better. -/
theorem Course.passes_of_rank_le {elsewhere : Surroundings} {otherLine : CommandLine}
    (course : Course around line) (other : Course elsewhere otherLine) {min worse : Grade}
    (hreport : other.report = course.report) (haggregates : other.aggregates = course.aggregates)
    (hmin : course.minimum = some min) (hworse : other.minimum = some worse)
    (hle : min.rank ≤ worse.rank) (hpasses : exitCodeOf course.assessment = .success) :
    exitCodeOf other.assessment = .success := by
  have hgrade : other.grade = course.grade := by
    rw [Course.grade, Course.grade, hreport, haggregates]
  rw [exitCodeOf_eq_success_iff, course.isBelowMinimum_assessment, hmin, Option.any_some] at hpasses
  rw [exitCodeOf_eq_success_iff, other.isBelowMinimum_assessment, hworse, Option.any_some, hgrade]
  exact Grade.isWorseThan_of_rank_le hle hpasses

end Agreement

/-- A run that ends with an exit code agrees on the check for a minimum grade wherever it tells of
it, and presents the sheet once. If it passes with a minimum, so does the run with a worse minimum
on the command line in the same surroundings, which include the order of nested maps, and every run
on the same report that rolls up alike and has a worse minimum, in whatever surroundings. -/
theorem agreesOn_of_run {around : Surroundings} {line : CommandLine} {code : ExitCode}
    {trace : Trace} (hrun : (perform around line).run ⟨"", [], around.files⟩ = (.ok code, trace)) :
    Outcome.ofLine around line = ⟨code, trace⟩ ∧
    ∃ course : Course around line, course.AgreesOn code trace ∧
      ∀ min worse : Grade, course.minimum = some min → code = .success → min.rank ≤ worse.rank →
        (∃ after, (perform around { line with minGrade := some worse }).run ⟨"", [], around.files⟩ =
          (.ok .success, after)) ∧
        ∀ (elsewhere : Surroundings) (otherLine : CommandLine) (other : Course elsewhere otherLine)
          (otherCode : ExitCode) (after : Trace),
          (perform elsewhere otherLine).run ⟨"", [], elsewhere.files⟩ = (.ok otherCode, after) →
          other.report = course.report → other.aggregates = course.aggregates →
          other.minimum = some worse → otherCode = .success := by
  obtain ⟨course, files, hfiles, rfl, rfl⟩ := run_perform_eq_ok_iff.mp hrun
  refine ⟨by rw [Outcome.ofLine, hrun], course, course.agreesOn hfiles,
    fun min worse hmin hpasses hle ↦ ⟨?_, ?_⟩⟩
  · let other := course.withMinimum worse
    obtain ⟨otherFiles, hotherFiles⟩ := exists_filesAfter_ok hfiles other.text
    have hcode : exitCodeOf other.assessment = .success :=
      course.passes_of_rank_le other rfl rfl hmin rfl hle hpasses
    exact ⟨_, run_perform_eq_ok_iff.mpr ⟨other, otherFiles, hotherFiles, hcode.symm, rfl⟩⟩
  · intro elsewhere otherLine other otherCode after hother hreport haggregates hworse
    obtain ⟨same, -, -, rfl, -⟩ := run_perform_eq_ok_iff.mp hother
    rw [Subsingleton.elim same other]
    exact course.passes_of_rank_le other hreport haggregates hmin hworse hle hpasses

/-- Its one dependency has a critical vulnerability, which only a roll-up takes into account. -/
private def riskyDocument : String :=
  "\x7b\"name\":\"a\",\"version\":\"1\",\"freshnessScore\":0.6,\"dependencies\":[" ++
    "\x7b\"name\":\"b\",\"version\":\"2\"," ++
    "\"directVulnerabilityCounts\":\x7b\"critical\":1\x7d\x7d]\x7d"

private def riskyFiles : FileSystem :=
  ((FileSystem.empty ["work"]).set ["r.json", "work"] (some (.file riskyDocument.toUTF8))).set
    ["depscore.config.yml", "work"] (some (.file "min_grade: A\naggregate: true\n".toUTF8))

private def riskyAround : Surroundings where
  files := riskyFiles
  fetch := fun _ ↦ .unreachable ""
  imprint := ⟨"2024-01-01T00:00:00Z", "tool", "1", "id"⟩
  colors := false

/-- The line leaves the minimum to the configuration, or gives one. -/
private def riskyLine (minGrade : Option Grade) : CommandLine :=
  { report := some "r.json", format := some .json, minGrade }

/-- With the roll-up the grade is B, which fails the minimum of the configuration and passes the one
of the command line. -/
theorem agreesOn_of_run_risky :
    (∃ (trace : Trace) (course : Course riskyAround (riskyLine none)),
      (perform riskyAround (riskyLine none)).run ⟨"", [], riskyFiles⟩ =
        (.ok .gradeBelowMinimum, trace) ∧
      course.AgreesOn .gradeBelowMinimum trace) ∧
    ∃ (trace after : Trace) (course : Course riskyAround (riskyLine (some .b))),
      (perform riskyAround (riskyLine (some .b))).run ⟨"", [], riskyFiles⟩ =
        (.ok .success, trace) ∧
      course.AgreesOn .success trace ∧ course.minimum = some .b ∧ Grade.b.rank ≤ Grade.e.rank ∧
      (perform riskyAround (riskyLine (some .e))).run ⟨"", [], riskyFiles⟩ =
        (.ok .success, after) := by
  have hfails : ((perform riskyAround (riskyLine none)).run ⟨"", [], riskyFiles⟩).1.toOption =
      some .gradeBelowMinimum := by
    decide +kernel
  have hpasses : ((perform riskyAround (riskyLine (some .b))).run
      ⟨"", [], riskyFiles⟩).1.toOption = some .success := by
    decide +kernel
  obtain ⟨failed, hfailed⟩ := exists_run_eq_ok hfails
  obtain ⟨passed, hpassed⟩ := exists_run_eq_ok hpasses
  obtain ⟨-, first, hfirst, -⟩ := agreesOn_of_run hfailed
  obtain ⟨-, second, hsecond, hworse⟩ := agreesOn_of_run hpassed
  obtain ⟨⟨after, hafter⟩, -⟩ := hworse .b .e rfl rfl (by decide)
  exact ⟨⟨failed, first, hfailed, hfirst⟩, passed, after, second, hpassed, hsecond, rfl, by decide,
    hafter⟩

end Session

end PackageRisk
