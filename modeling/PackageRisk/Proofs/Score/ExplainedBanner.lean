import PackageRisk.Proofs.Banner
import PackageRisk.Proofs.Number.ClampedSum
import PackageRisk.Proofs.Score.Explanation

/-!
# Explained banners

A banner is told by the sums of the counts of both scopes, an explanation by the counts of each
scope. A sum of counts stops at the greatest count and never turns to zero, so both tell of the same
severities. The explanation leaves out the low ones, which the banner informs of.
-/

namespace PackageRisk

/-- Both scopes together miss a severity exactly if each of them does. -/
theorem ScoreInput.get_direct_add_indirect_eq_zero_iff {input : ScoreInput}
    {severity : Severity} :
    (input.direct + input.indirect).get severity = 0 ↔
      ∀ scope, (input.vulnerabilities scope).get severity = 0 := by
  rw [VulnerabilityCounts.get_add, Count.add_eq_zero_iff]
  constructor
  · rintro ⟨hdirect, hindirect⟩ (_ | _)
    · exact hdirect
    · exact hindirect
  · intro hzero
    exact ⟨hzero .direct, hzero .indirect⟩

/-- The number of all vulnerabilities is zero exactly if there is none of any severity. -/
theorem VulnerabilityCounts.isEmpty_iff {counts : VulnerabilityCounts} :
    counts.isEmpty = true ↔ ∀ severity, counts.get severity = 0 := by
  have hadds : Count.Adds (fun (sum : Count) severity ↦ sum + counts.get severity)
      fun severity ↦ (counts.get severity).val := fun _ _ ↦ rfl
  have htotal : counts.total.val =
      min (0 + (Severity.all.map fun severity ↦ (counts.get severity).val).sum) Count.max :=
    Count.val_foldl hadds Severity.all 0
  have hzero : counts.total = 0 ↔
      (Severity.all.map fun severity ↦ (counts.get severity).val).sum = 0 := by
    rw [Count.ext_iff, htotal, Count.val_zero, Count.max]
    omega
  rw [isEmpty, decide_eq_true_iff, hzero, List.sum_eq_zero_iff_forall_eq_nat, List.forall_mem_map]
  constructor
  · intro h severity
    exact Count.ext (h severity severity.mem_all)
  · intro h severity _
    rw [h severity]
    rfl

namespace Score

/-- An explanation tells of vulnerabilities of a severity: it has an entry with the label of their
penalty in the package or in its dependencies. -/
def Tells (entries : List Term) (severity : Severity) : Prop :=
  ∃ entry ∈ entries, ∃ scope, entry.label = Penalty.label scope severity

/-- An explanation tells of the severities above low that there are vulnerabilities of. -/
theorem tells_explanation_iff {input : ScoreInput} {severity : Severity} :
    Tells (terms input ++ [⟨totalLabel, sum (terms input)⟩]) severity ↔
      severity ∈ Penalty.severities ∧ (input.direct + input.indirect).get severity ≠ 0 := by
  rw [Ne, ScoreInput.get_direct_add_indirect_eq_zero_iff, not_forall]
  constructor
  · rintro ⟨entry, hentry, scope, hlabel⟩
    obtain ⟨hsome, hpoints⟩ := (mem_explanation_iff hlabel).mp hentry
    exact ⟨Penalty.mem_severities_of_points? hpoints, scope, hsome⟩
  · rintro ⟨hcosts, scope, hsome⟩
    obtain ⟨points, hpoints⟩ := Penalty.exists_points? hcosts scope
    exact ⟨⟨Penalty.label scope severity, points⟩, (mem_explanation_iff rfl).mpr ⟨hsome, hpoints⟩,
      scope, rfl⟩

end Score

namespace Banner

open Score (Tells)

/-- Neither failing nor warning is informing or having no banner. -/
theorem eq_some_info_or_eq_none_iff {banner : Option Banner} :
    banner = some info ∨ banner = none ↔ banner ≠ some fail ∧ banner ≠ some warn := by
  rcases banner with _ | _ | _ | _ <;> decide

/-- The banner fails exactly if the explanation tells of critical or high vulnerabilities, and warns
exactly if it tells of medium ones and of no graver ones. It informs or is missing exactly if the
explanation tells of no vulnerabilities. It is missing exactly if every count is zero, and exactly
if the sum of the counts of both scopes is empty. -/
theorem ofInput?_explained (input : ScoreInput) :
    ∃ entries, (Score.compute input true).breakdown = some entries ∧
      (ofInput? input = some fail ↔ Tells entries .critical ∨ Tells entries .high) ∧
      (ofInput? input = some warn ↔
        Tells entries .medium ∧ ¬(Tells entries .critical ∨ Tells entries .high)) ∧
      (ofInput? input = some info ∨ ofInput? input = none ↔
        ∀ severity, ¬Tells entries severity) ∧
      (ofInput? input = none ↔
        ∀ scope severity, (input.vulnerabilities scope).get severity = 0) ∧
      (ofInput? input = none ↔ (input.direct + input.indirect).isEmpty = true) := by
  have htells {severity : Severity} (hcosts : severity ∈ Penalty.severities) :
      (input.direct + input.indirect).get severity ≠ 0 ↔
        Tells (Score.terms input ++ [⟨Score.totalLabel, Score.sum (Score.terms input)⟩]) severity :=
    (Score.tells_explanation_iff.trans (and_iff_right hcosts)).symm
  have hfail : ofInput? input = some fail ↔ _ := ofCounts?_eq_some_fail_iff
  have hwarn : ofInput? input = some warn ↔ _ := ofCounts?_eq_some_warn_iff
  rw [htells (by decide), htells (by decide)] at hfail
  rw [htells (by decide), htells (by decide), htells (by decide)] at hwarn
  refine ⟨_, rfl, hfail, hwarn, ?_, ?_, ?_⟩
  · rw [eq_some_info_or_eq_none_iff, Ne, Ne, hfail, hwarn]
    constructor
    · rintro ⟨hspared, hmedium⟩ severity h
      cases severity with
      | critical => exact hspared (.inl h)
      | high => exact hspared (.inr h)
      | medium => exact hmedium ⟨h, hspared⟩
      | low => exact absurd (Score.tells_explanation_iff.mp h).1 (by decide)
    · intro hnone
      exact ⟨fun h ↦ h.elim (hnone _) (hnone _), fun h ↦ hnone _ h.1⟩
  · rw [ofInput?, ofCounts?_eq_none_iff, forall_comm]
    exact forall_congr' fun severity ↦ ScoreInput.get_direct_add_indirect_eq_zero_iff
  · rw [ofInput?, ofCounts?_eq_none_iff, VulnerabilityCounts.isEmpty_iff]

end Banner

end PackageRisk
