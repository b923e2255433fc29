import PackageRisk.Proofs.Number.ClampedSum
import PackageRisk.Report.RollUp

/-!
# Totals of rolled-up dependencies

The totals of a roll-up are exact sums over the reports of the direct dependencies, clamped once. Of
each report they use its share: the number of its dependencies and its vulnerabilities of both
scopes. The order of the reports does not matter.
-/

namespace PackageRisk

namespace Report

/-- What a report contributes to the totals of a package that depends on it. -/
structure Share where
  allDependencies : Count
  direct : VulnerabilityCounts
  indirect : VulnerabilityCounts
  deriving DecidableEq, Repr

/-- The share of a report. -/
def share (report : Report) : Share :=
  ⟨report.input.allDependencies, report.input.direct, report.input.indirect⟩

namespace Share

/-- The number of packages in a share: the dependency itself and all below it. -/
def packages (share : Share) : Nat := 1 + share.allDependencies.val

/-- The number of vulnerabilities of a severity in a share. -/
def vulnerabilities (severity : Severity) (share : Share) : Nat :=
  (share.direct.get severity).val + (share.indirect.get severity).val

end Share

/-- A step of the roll-up counts the dependency itself and all its own dependencies. -/
theorem adds_packages :
    Count.Adds (fun sum (report : Report) ↦ sum + 1 + report.input.allDependencies)
      (fun report ↦ report.share.packages) := by
  intro count report
  simp only [Count.val_add, Count.val_one, share, Share.packages]
  omega

/-- A step of the roll-up adds the vulnerabilities of both scopes. -/
theorem adds_vulnerabilities (severity : Severity) :
    Count.Adds (fun sum (report : Report) ↦
        sum + report.input.direct.get severity + report.input.indirect.get severity)
      (fun report ↦ report.share.vulnerabilities severity) := by
  intro count report
  simp only [Count.val_add, share, Share.vulnerabilities]
  omega

/-- The roll-up counts the packages of all shares. -/
theorem val_rolledDependencies (reports : List Report) :
    (rolledDependencies reports).val =
      min ((reports.map share).map Share.packages).sum Count.max := by
  unfold rolledDependencies
  rw [Count.val_foldl adds_packages, Count.val_zero, Nat.zero_add, List.map_map]
  rfl

/-- The roll-up of vulnerabilities goes severity by severity. -/
theorem get_rolledVulnerabilities (reports : List Report) (severity : Severity) :
    (rolledVulnerabilities reports).get severity =
      reports.foldl (fun sum report ↦
        sum + report.input.direct.get severity + report.input.indirect.get severity) 0 := by
  unfold rolledVulnerabilities
  rw [← VulnerabilityCounts.get_zero severity]
  refine (List.foldl_hom (fun counts : VulnerabilityCounts ↦ counts.get severity) ?_).symm
  intro sum report
  simp only [VulnerabilityCounts.get_add]

/-- The roll-up counts the vulnerabilities of all shares. -/
theorem val_get_rolledVulnerabilities (reports : List Report) (severity : Severity) :
    ((rolledVulnerabilities reports).get severity).val =
      min ((reports.map share).map (Share.vulnerabilities severity)).sum Count.max := by
  rw [get_rolledVulnerabilities, Count.val_foldl (adds_vulnerabilities severity), Count.val_zero,
    Nat.zero_add, List.map_map]
  rfl

variable {reports others : List Report}

/-- The number of packages does not depend on the order of the reports, and of each only on its
share. -/
theorem rolledDependencies_perm (h : (reports.map share).Perm (others.map share)) :
    rolledDependencies reports = rolledDependencies others := by
  apply Count.ext
  rw [val_rolledDependencies, val_rolledDependencies, (h.map Share.packages).sum_nat]

/-- Neither do the vulnerabilities depend on the order or on more than the shares. -/
theorem rolledVulnerabilities_perm (h : (reports.map share).Perm (others.map share)) :
    rolledVulnerabilities reports = rolledVulnerabilities others := by
  apply VulnerabilityCounts.ext_get
  intro severity
  apply Count.ext
  rw [val_get_rolledVulnerabilities, val_get_rolledVulnerabilities,
    (h.map (Share.vulnerabilities severity)).sum_nat]

/-- The stored totals are those of the direct dependencies. -/
def StoresRollUp (report : Report) : Prop :=
  report.input.allDependencies = rolledDependencies report.dependencies ∧
    report.input.indirect = rolledVulnerabilities report.dependencies

/-- Whether the roll-up is stored is decided by comparing it. -/
instance (report : Report) : Decidable report.StoresRollUp := inferInstanceAs (Decidable (_ ∧ _))

end Report

end PackageRisk
