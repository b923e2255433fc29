import PackageRisk.Assessment

/-!
# What an assessment says

An assessment is of the report that was loaded. Of this report only the input can be replaced, by
the roll-up of the direct dependencies. The dependencies themselves are scored as if each had been
loaded by itself, without a roll-up.
-/

namespace PackageRisk

namespace Assessment

variable {request : Request} {report : Report}

/-- The roll-up was asked for, and there are dependencies. -/
def RollsUp (request : Request) (report : Report) : Prop :=
  request.aggregate = true ∧ report.dependencies ≠ []

/-- A request that rolls the counts up scores the roll-up of the dependencies. -/
theorem inputFor_of_rollsUp (h : RollsUp request report) :
    inputFor request report = report.input.rollUp report.dependencies := by
  obtain ⟨haggregate, hsome⟩ := h
  have hnonempty : report.dependencies.isEmpty = false := by simpa using hsome
  rw [inputFor, haggregate, hnonempty, if_pos (by rfl)]

/-- Any other request scores the counts that the report states. -/
theorem inputFor_of_not_rollsUp (h : ¬RollsUp request report) :
    inputFor request report = report.input := by
  rw [inputFor, if_neg]
  intro hboth
  rw [Bool.and_eq_true, Bool.not_eq_true', List.isEmpty_eq_false_iff] at hboth
  exact h hboth

/-- A request without aggregation scores the counts that the report states. -/
theorem inputFor_of_stored (hstored : request.aggregate = false) (report : Report) :
    inputFor request report = report.input := by
  apply inputFor_of_not_rollsUp
  rintro ⟨haggregate, -⟩
  rw [hstored] at haggregate
  cases haggregate

/-- Without a roll-up, the package is scored from its stored input. -/
theorem package_ofReport (hstored : request.aggregate = false) (report : Report) :
    (ofReport request report).package = .ofReport report request.breakdown := by
  rw [ofReport, inputFor_of_stored hstored]
  cases report
  rfl

/-- The dependencies are the reports that were loaded with it, in their order. -/
theorem map_report_dependencies (request : Request) (report : Report) :
    (ofReport request report).dependencies.map (·.report) = report.dependencies := by
  rw [ofReport, List.map_map]
  exact List.map_id _

/-- An assessment comes from a report that was loaded. -/
theorem fst_run_eq_ok_iff {ε : Type} {source : String} {loaded : Except ε Report}
    {assessment : Assessment} :
    (run source loaded request).1 = .ok assessment ↔
      ∃ report, loaded = .ok report ∧ assessment = .ofReport request report := by
  cases loaded with
  | ok report => simp [run, eq_comm]
  | error failure => simp [run]

/-- An assessment of a loaded report does not fail. Its package is the report with its input
replaced, scored from this input: the stored one, or the roll-up if it was asked for and there are
dependencies. Its dependencies are those of the report, each of them scored as the package of an
assessment without roll-up and explanation. -/
theorem run_loaded {ε : Type} (source : String) (report : Report) (request : Request) :
    ∃ assessment input,
      (run source (.ok report : Except ε Report) request).1 = .ok assessment ∧
      assessment.package = ⟨{ report with input }, .compute input request.breakdown,
        Banner.ofInput? input⟩ ∧
      (RollsUp request report →
        ScoreInput.aggregate? report.input.freshness report.input.direct report.dependencies =
          some input ∧
        input.freshness = report.input.freshness ∧ input.direct = report.input.direct ∧
        input.allDependencies = Report.rolledDependencies report.dependencies ∧
        input.indirect = Report.rolledVulnerabilities report.dependencies) ∧
      (¬RollsUp request report → input = report.input) ∧
      assessment.dependencies.map (·.report) = report.dependencies ∧
      ∀ row ∈ assessment.dependencies,
        row.score = .compute row.report.input false ∧
        row.banner = Banner.ofInput? row.report.input ∧
        ∀ ownSource own, own.aggregate = false → own.breakdown = false →
          ∃ alone, (run ownSource (.ok row.report : Except ε Report) own).1 = .ok alone ∧
            alone.package = row := by
  refine ⟨ofReport request report, inputFor request report, rfl, rfl, fun hrolls ↦ ?_,
    inputFor_of_not_rollsUp, map_report_dependencies request report, fun row hrow ↦ ?_⟩
  · rw [inputFor_of_rollsUp hrolls]
    exact ⟨report.input.aggregate?_eq_some_rollUp report.dependencies, rfl, rfl, rfl, rfl⟩
  · obtain ⟨dependency, -, rfl⟩ := List.mem_map.mp hrow
    refine ⟨rfl, rfl, fun ownSource own hstored hbrief ↦ ⟨ofReport own dependency, rfl, ?_⟩⟩
    rw [package_ofReport hstored, hbrief]

end Assessment

end PackageRisk
