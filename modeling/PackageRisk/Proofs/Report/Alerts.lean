import PackageRisk.Proofs.Banner
import PackageRisk.Proofs.Report.RollUp
import PackageRisk.Proofs.Score.Explanation

/-!
# Alerts of a roll-up

A roll-up loses no vulnerability: sums of counts stop at the greatest count, so they are zero only
where everything that is added is. Hence the banner of a roll-up is the gravest among those of the
package itself and of its dependencies, and its explanation has a penalty for every severity that a
dependency shows.
-/

namespace PackageRisk

namespace Report

/-- A severity is missing from a roll-up exactly when it is missing from all reports. -/
theorem get_rolledVulnerabilities_eq_zero_iff {reports : List Report} {severity : Severity} :
    (rolledVulnerabilities reports).get severity = 0 ↔
      ∀ report ∈ reports,
        report.input.direct.get severity = 0 ∧ report.input.indirect.get severity = 0 := by
  have hsum (n : Nat) : min n Count.max = 0 ↔ n = 0 := by
    unfold Count.max
    omega
  rw [Count.ext_iff, val_get_rolledVulnerabilities, Count.val_zero, hsum,
    List.sum_eq_zero_iff_forall_eq_nat, List.map_map, List.forall_mem_map]
  refine forall₂_congr fun report _ ↦ ?_
  rw [Count.ext_iff, Count.ext_iff]
  exact Nat.add_eq_zero_iff

/-- The counts of a package and of the reports of its dependencies, of both scopes together. -/
def parts (direct : VulnerabilityCounts) (reports : List Report) : List VulnerabilityCounts :=
  direct :: reports.map fun report ↦ report.input.direct + report.input.indirect

/-- A package with a roll-up shows the severities that itself or one of the reports shows. -/
theorem get_add_rolledVulnerabilities_ne_zero_iff (direct : VulnerabilityCounts)
    (reports : List Report) (severity : Severity) :
    (direct + rolledVulnerabilities reports).get severity ≠ 0 ↔
      ∃ part ∈ parts direct reports, part.get severity ≠ 0 := by
  rw [not_iff_comm, VulnerabilityCounts.get_add, Count.add_eq_zero_iff,
    get_rolledVulnerabilities_eq_zero_iff]
  simp [parts, Count.add_eq_zero_iff]

end Report

namespace ScoreInput

variable {freshness : Binary64} {direct : VulnerabilityCounts} {reports : List Report}
  {input : ScoreInput}

/-- An aggregated input has its own vulnerabilities and those of the roll-up. -/
theorem vulnerabilities_of_aggregate? (h : aggregate? freshness direct reports = some input) :
    input.direct = direct ∧ input.indirect = Report.rolledVulnerabilities reports := by
  unfold aggregate? ofFacts? at h
  split_ifs at h
  cases h
  exact ⟨rfl, rfl⟩

/-- An aggregated input misses a severity in its dependencies exactly when all of these miss it in
both scopes. Its banner is the gravest among that of its own vulnerabilities and those of the
dependencies. Its explanation has the penalty for a severity in dependencies exactly when one of
these shows it, and no other entry with the label of this penalty. -/
theorem alerts_of_aggregate? (h : aggregate? freshness direct reports = some input) :
    (∀ severity, input.indirect.get severity = 0 ↔ ∀ report ∈ reports,
      report.input.direct.get severity = 0 ∧ report.input.indirect.get severity = 0) ∧
    Banner.IsGravest (Banner.ofCounts? direct ::
      reports.map fun report ↦ Banner.ofInput? report.input) (Banner.ofInput? input) ∧
    ∃ entries, (Score.compute input true).breakdown = some entries ∧
      ∀ severity points, Penalty.points? .indirect severity = some points →
        (⟨Penalty.label .indirect severity, points⟩ ∈ entries ↔ ∃ report ∈ reports,
          report.input.direct.get severity ≠ 0 ∨ report.input.indirect.get severity ≠ 0) ∧
        ∀ entry ∈ entries, entry.label = Penalty.label .indirect severity →
          entry.points = points := by
  obtain ⟨hdirect, hindirect⟩ := vulnerabilities_of_aggregate? h
  refine ⟨fun severity ↦ ?_, ?_, _, rfl, fun severity points hpoints ↦ ⟨?_, ?_⟩⟩
  · rw [hindirect]
    exact Report.get_rolledVulnerabilities_eq_zero_iff
  · have hgravest := Banner.isGravest_of_merged (List.cons_ne_nil _ _)
      (Report.get_add_rolledVulnerabilities_ne_zero_iff direct reports)
    rw [List.map_cons, List.map_map] at hgravest
    rw [Banner.ofInput?, hdirect, hindirect]
    exact hgravest
  · have hlabel : Term.label ⟨Penalty.label .indirect severity, points⟩ =
        Penalty.label .indirect severity := rfl
    rw [Score.mem_explanation_iff hlabel, vulnerabilities, hindirect, and_iff_left hpoints, ne_eq,
      Report.get_rolledVulnerabilities_eq_zero_iff]
    simp only [not_forall, not_and_or, exists_prop, ne_eq]
  · intro entry hentry hlabel
    obtain ⟨-, hentryPoints⟩ := (Score.mem_explanation_iff hlabel).mp hentry
    exact Option.some.inj (hentryPoints.symm.trans hpoints)

private def alertPackage : Package := ⟨"alert", "5.0", by decide +kernel, by decide +kernel⟩

private def alertReport (direct indirect : VulnerabilityCounts) : Report :=
  ⟨alertPackage, ⟨.zero, 0, direct, indirect, Binary64.isFinite_zero⟩,
    ⟨none, none, none, none, none⟩, []⟩

/-- Dependencies with one medium vulnerability more than can be counted. -/
private def alertReports : List Report :=
  [alertReport ⟨0, 0, .clamp Count.max, 0⟩ 0, alertReport 0 ⟨0, 0, 1, 0⟩]

private def storedInput : ScoreInput := ⟨.zero, 0, ⟨0, 0, 0, 1⟩, 0, Binary64.isFinite_zero⟩

private def alertInput : ScoreInput := storedInput.rollUp alertReports

/-- Medium vulnerabilities whose sum is at the limit still have their term and their banner. -/
theorem alerts_of_aggregate?_saturated :
    aggregate? .zero ⟨0, 0, 0, 1⟩ alertReports = some alertInput ∧
      Banner.IsGravest [some .info, some .warn, some .warn] (Banner.ofInput? alertInput) ∧
      Banner.ofInput? alertInput = some .warn ∧
      alertInput.indirect.get .medium ≠ 0 ∧
      ∃ entries, (Score.compute alertInput true).breakdown = some entries ∧
        ⟨Penalty.label .indirect .medium, .clamp (-3)⟩ ∈ entries := by
  have haggregate : aggregate? .zero ⟨0, 0, 0, 1⟩ alertReports = some alertInput :=
    aggregate?_eq_some_rollUp storedInput alertReports
  obtain ⟨hzero, hbanner, entries, hentries, hpenalty⟩ := alerts_of_aggregate? haggregate
  have hshown : ∃ report ∈ alertReports,
      report.input.direct.get .medium ≠ 0 ∨ report.input.indirect.get .medium ≠ 0 :=
    ⟨alertReport 0 ⟨0, 0, 1, 0⟩, by simp [alertReports], .inr (by decide)⟩
  refine ⟨haggregate, hbanner, by decide +kernel, ?_, entries, hentries,
    (hpenalty .medium _ rfl).1.mpr hshown⟩
  rw [Ne, hzero]
  decide +kernel

end ScoreInput

end PackageRisk
