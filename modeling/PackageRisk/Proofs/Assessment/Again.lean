import PackageRisk.Proofs.Assessment.Response
import PackageRisk.Proofs.Assessment.Telling
import PackageRisk.Proofs.Report.RollUp

/-!
# Assessing again

A roll-up reads nothing that it writes: the totals that it replaces are not among what it uses. So a
report whose totals were rolled up is assessed again with the same outcome, and where the stored
totals are those of the roll-up, it makes no difference whether the roll-up is asked for.
-/

namespace PackageRisk

/-- Rolling up twice is rolling up once. -/
theorem ScoreInput.rollUp_rollUp (input : ScoreInput) (reports : List Report) :
    (input.rollUp reports).rollUp reports = input.rollUp reports := rfl

/-- A roll-up changes nothing where its totals are stored. -/
theorem Report.StoresRollUp.rollUp_eq {report : Report} (h : report.StoresRollUp) :
    report.input.rollUp report.dependencies = report.input := by
  unfold ScoreInput.rollUp
  rw [← h.1, ← h.2]

namespace Assessment

variable {request : Request} {report : Report}

/-- The report with the input that its package is scored from. -/
def scoredReport (request : Request) (report : Report) : Report :=
  { report with input := inputFor request report }

private theorem rollsUp_scoredReport (request : Request) (report : Report) :
    RollsUp request (scoredReport request report) ↔ RollsUp request report := Iff.rfl

/-- The input that was chosen is chosen again. -/
theorem inputFor_scoredReport (request : Request) (report : Report) :
    inputFor request (scoredReport request report) = inputFor request report := by
  by_cases hrolls : RollsUp request report
  · have hagain := (rollsUp_scoredReport request report).mpr hrolls
    rw [inputFor_of_rollsUp hagain, inputFor_of_rollsUp hrolls, scoredReport,
      inputFor_of_rollsUp hrolls]
    exact ScoreInput.rollUp_rollUp ..
  · rw [inputFor_of_not_rollsUp (mt (rollsUp_scoredReport request report).mp hrolls)]
    rfl

/-- A rolled-up number of dependencies is that of the roll-up. -/
theorem allDependencies_scoredReport (h : RollsUp request report) :
    (scoredReport request report).input.allDependencies =
      Report.rolledDependencies report.dependencies := by
  rw [scoredReport, inputFor_of_rollsUp h]
  rfl

/-- The scored report has the assessment of the report. -/
theorem ofReport_scoredReport (request : Request) (report : Report) :
    ofReport request (scoredReport request report) = ofReport request report := by
  unfold ofReport
  rw [inputFor_scoredReport]
  rfl

/-- That the number of dependencies differs is told exactly when a roll-up was made and gave another
number than the stored one. -/
theorem TellsRollUp.countDiffers_mem_iff {events : List Event}
    (h : TellsRollUp request report events) (rolledUp stored : Count) :
    .countDiffers rolledUp stored ∈ events ↔
      RollsUp request report ∧ rolledUp = Report.rolledDependencies report.dependencies ∧
        stored = report.input.allDependencies ∧ rolledUp ≠ stored := by
  unfold RollsUp
  cases h with
  | notAsked haggregate => simp [haggregate]
  | nothing haggregate hnone => simp [hnone]
  | differs haggregate hsome hne =>
    simp only [List.mem_singleton, Event.countDiffers.injEq, haggregate]
    grind
  | agrees haggregate hsome heq => grind

private theorem countDiffers_mem_run_iff {ε : Type} (source : String) (rolledUp stored : Count) :
    .countDiffers rolledUp stored ∈ (run source (.ok report : Except ε Report) request).2 ↔
      RollsUp request report ∧ rolledUp = Report.rolledDependencies report.dependencies ∧
        stored = report.input.allDependencies ∧ rolledUp ≠ stored := by
  rw [← (tellsRollUp_rollUpEvents request report).countDiffers_mem_iff]
  simp [run, reportEvents]

/-- The number of dependencies of the scored report is not told to differ. -/
theorem countDiffers_notMem_run_scoredReport {ε : Type} (source : String)
    (rolledUp stored : Count) : .countDiffers rolledUp stored ∉
      (run source (.ok (scoredReport request report) : Except ε Report) request).2 := by
  rw [countDiffers_mem_run_iff]
  rintro ⟨hrolls, rfl, rfl, hne⟩
  have hrolled := (rollsUp_scoredReport request report).mp hrolls
  exact hne (allDependencies_scoredReport hrolled).symm

/-- Where the totals of the roll-up are stored, the input is the stored one in any case. -/
theorem inputFor_of_storesRollUp (h : report.StoresRollUp) (request : Request) :
    inputFor request report = report.input := by
  by_cases hrolls : RollsUp request report
  · rw [inputFor_of_rollsUp hrolls, h.rollUp_eq]
  · exact inputFor_of_not_rollsUp hrolls

/-- Nothing is told of a roll-up that gives the stored number of dependencies. -/
theorem rollUpEvents_of_storesRollUp (h : report.StoresRollUp) (hsome : report.dependencies ≠ [])
    (request : Request) : rollUpEvents request report = [] := by
  have hnonempty : report.dependencies.isEmpty = false := by simpa using hsome
  unfold rollUpEvents
  rw [hnonempty, ← h.1]
  simp

/-- The report as it was scored is assessed again with the same outcome, and its number of
dependencies is not told to differ. A report with dependencies that stores the totals of their
roll-up is assessed, and told of, in the same way with and without a roll-up. -/
theorem run_again {ε : Type} (source again : String) (request : Request) (report : Report) :
    (∃ assessment, (run source (.ok report : Except ε Report) request).1 = .ok assessment ∧
      (run again (.ok assessment.package.report : Except ε Report) request).1 = .ok assessment ∧
      ∀ rolledUp stored, .countDiffers rolledUp stored ∉
        (run again (.ok assessment.package.report : Except ε Report) request).2) ∧
    (report.dependencies ≠ [] → report.StoresRollUp →
      run source (.ok report : Except ε Report) { request with aggregate := true } =
        run source (.ok report) { request with aggregate := false }) := by
  constructor
  · refine ⟨ofReport request report, rfl, ?_, ?_⟩
    · exact congrArg Except.ok (ofReport_scoredReport request report)
    · exact countDiffers_notMem_run_scoredReport again
  · intro hsome hstores
    have hassessment : ofReport { request with aggregate := true } report =
        ofReport { request with aggregate := false } report := by
      unfold ofReport
      rw [inputFor_of_storesRollUp hstores, inputFor_of_storesRollUp hstores]
    unfold run reportEvents
    dsimp only
    rw [hassessment, rollUpEvents_of_storesRollUp hstores hsome,
      rollUpEvents_of_storesRollUp hstores hsome]

private def dependencyPackage : Package := ⟨"crowd", "3", by decide +kernel, by decide +kernel⟩

/-- A dependency with more below it than can be counted together with itself. -/
private def crowdedDependency : Report where
  package := dependencyPackage
  input := ⟨.zero, .clamp Count.max, ⟨0, .clamp 1, 0, 0⟩, ⟨0, 0, 0, .clamp Count.max⟩,
    Binary64.isFinite_zero⟩
  details := ⟨none, none, none, none, none⟩
  dependencies := []

/-- A report that stores the totals of the dependency. -/
private def crowdedReport : Report where
  package := dependencyPackage
  input := ⟨.zero, .clamp Count.max, 0, ⟨0, .clamp 1, 0, .clamp Count.max⟩,
    Binary64.isFinite_zero⟩
  details := ⟨none, none, none, none, none⟩
  dependencies := [crowdedDependency]

/-- Totals at the limit are rolled up once more to themselves. -/
theorem run_again_crowded :
    crowdedReport.dependencies ≠ [] ∧ crowdedReport.StoresRollUp ∧
      run "r.json" (.ok crowdedReport : Except Unit Report) ⟨true, true, some .a⟩ =
        run "r.json" (.ok crowdedReport) ⟨true, false, some .a⟩ := by
  have hsome : crowdedReport.dependencies ≠ [] := by simp [crowdedReport]
  have hstores : crowdedReport.StoresRollUp := by decide +kernel
  exact ⟨hsome, hstores,
    (run_again "r.json" "r.json" ⟨true, true, some .a⟩ crowdedReport).2 hsome hstores⟩

end Assessment

end PackageRisk
