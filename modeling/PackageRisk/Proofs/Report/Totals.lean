import PackageRisk.Proofs.Report.Resolved
import PackageRisk.Proofs.Report.RollUp

/-!
# Exact totals

The totals of a roll-up are sums over the reports of the direct dependencies, each clamped once, so
the roll-up of two lists of reports is the sum of their roll-ups. An aggregated input has these
totals beside the freshness and the vulnerabilities that it is given, and nothing but the freshness
decides whether there is one.
-/

namespace PackageRisk

namespace Report

/-- The totals of a list of reports: each report counts itself and all its dependencies, and its
vulnerabilities of both scopes. -/
structure HasTotals (reports : List Report) (packages : Count)
    (vulnerabilities : VulnerabilityCounts) : Prop where
  packages : packages.val =
    min (reports.map fun report ↦ 1 + report.input.allDependencies.val).sum Count.max
  vulnerabilities : ∀ severity, (vulnerabilities.get severity).val =
    min (reports.map fun report ↦
      (report.input.direct.get severity).val + (report.input.indirect.get severity).val).sum
      Count.max

/-- A roll-up computes the totals. -/
theorem hasTotals_rolled (reports : List Report) :
    HasTotals reports (rolledDependencies reports) (rolledVulnerabilities reports) where
  packages := by
    rw [val_rolledDependencies, List.map_map]
    rfl
  vulnerabilities := by
    intro severity
    rw [val_get_rolledVulnerabilities, List.map_map]
    rfl

variable {reports : List Report} {packages : Count} {vulnerabilities : VulnerabilityCounts}

/-- There are no other totals. -/
theorem hasTotals_iff :
    HasTotals reports packages vulnerabilities ↔
      packages = rolledDependencies reports ∧ vulnerabilities = rolledVulnerabilities reports := by
  have hrolled := hasTotals_rolled reports
  constructor
  · intro h
    refine ⟨Count.ext ?_, VulnerabilityCounts.ext_get fun severity ↦ Count.ext ?_⟩
    · rw [h.packages, hrolled.packages]
    · rw [h.vulnerabilities, hrolled.vulnerabilities]
  · rintro ⟨rfl, rfl⟩
    exact hrolled

/-- The dependencies of two lists of reports are counted list by list. -/
theorem rolledDependencies_append (reports more : List Report) :
    rolledDependencies (reports ++ more) =
      rolledDependencies reports + rolledDependencies more :=
  Count.foldl_append adds_packages reports more

/-- So are the vulnerabilities, severity by severity. -/
theorem rolledVulnerabilities_append (reports more : List Report) :
    rolledVulnerabilities (reports ++ more) =
      rolledVulnerabilities reports + rolledVulnerabilities more := by
  apply VulnerabilityCounts.ext_get
  intro severity
  simp only [VulnerabilityCounts.get_add, get_rolledVulnerabilities]
  exact Count.foldl_append (adds_vulnerabilities severity) reports more

end Report

namespace ScoreInput

variable {freshness : Binary64} {direct : VulnerabilityCounts} {reports : List Report}
  {input : ScoreInput}

private theorem aggregate?_eq_some_iff :
    aggregate? freshness direct reports = some input ↔
      input.freshness = freshness ∧ input.direct = direct ∧
        Report.HasTotals reports input.allDependencies input.indirect := by
  rw [aggregate?, ofFacts?_eq_some_iff, Report.hasTotals_iff]
  constructor
  · rintro ⟨hfreshness, hdependencies, hdirect, hindirect⟩
    exact ⟨hfreshness, hdirect, hdependencies, hindirect⟩
  · rintro ⟨hfreshness, hdirect, hdependencies, hindirect⟩
    exact ⟨hfreshness, hdependencies, hdirect, hindirect⟩

/-- Nothing but a freshness that is not finite is refused. -/
theorem aggregate?_eq_none_iff :
    aggregate? freshness direct reports = none ↔ freshness.isFinite = false := by
  unfold aggregate? ofFacts?
  split
  · next hfinite => simp [hfinite]
  · next hfinite => simpa using hfinite

/-- The roll-up of a list of reports has the totals of the list, and the roll-up of two lists is the
sum of their roll-ups, up to the greatest count. An aggregated input has the freshness and the
vulnerabilities of the package as they are given, and the totals of the reports; there is none if
and only if the freshness is not finite, whatever the reports are. -/
theorem aggregate?_exact (freshness : Binary64) (direct : VulnerabilityCounts)
    (reports : List Report) :
    Report.HasTotals reports (Report.rolledDependencies reports)
      (Report.rolledVulnerabilities reports) ∧
    (∀ more, Report.rolledDependencies (reports ++ more) =
        Report.rolledDependencies reports + Report.rolledDependencies more ∧
      ∀ severity, (Report.rolledVulnerabilities (reports ++ more)).get severity =
        (Report.rolledVulnerabilities reports).get severity +
          (Report.rolledVulnerabilities more).get severity) ∧
    (∀ input, aggregate? freshness direct reports = some input ↔
      input.freshness = freshness ∧ input.direct = direct ∧
        Report.HasTotals reports input.allDependencies input.indirect) ∧
    (aggregate? freshness direct reports = none ↔ freshness.isFinite = false) := by
  refine ⟨Report.hasTotals_rolled reports, fun more ↦ ⟨?_, fun severity ↦ ?_⟩,
    fun input ↦ aggregate?_eq_some_iff, aggregate?_eq_none_iff⟩
  · exact Report.rolledDependencies_append reports more
  · rw [Report.rolledVulnerabilities_append, VulnerabilityCounts.get_add]

end ScoreInput

end PackageRisk
