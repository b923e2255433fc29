import Mathlib.Data.List.Basic
import Mathlib.Tactic.SplitIfs
import PackageRisk.Proofs.Number.Accrual
import PackageRisk.Score

/-!
# Itemised scores

What enters into a score, told by rules with the ranges, labels and points themselves: the
freshness, one term or none for the number of dependencies, and one penalty or none for each
severity above low, in the package and then in its dependencies. The score of an input is added up
from these entries in their order, and an explanation lists them and the total.
-/

namespace PackageRisk.Score

/-- What a number of dependencies enters: a bonus if there are few, a penalty if there are many. -/
inductive TierEntry (count : Nat) : List Term → Prop
  | tiny (hhigh : count ≤ 5) : TierEntry count [⟨"All dependencies ≤ 5", .clamp 20⟩]
  | small (hlow : 6 ≤ count) (hhigh : count ≤ 20) :
    TierEntry count [⟨"All dependencies ≤ 20", .clamp 10⟩]
  | neutral (hlow : 21 ≤ count) (hhigh : count ≤ 99) : TierEntry count []
  | large (hlow : 100 ≤ count) (hhigh : count ≤ 499) :
    TierEntry count [⟨"All dependencies ≥ 100", .clamp (-10)⟩]
  | huge (hlow : 500 ≤ count) : TierEntry count [⟨"All dependencies ≥ 500", .clamp (-20)⟩]

/-- What the vulnerabilities of one severity in one scope enter: a fixed penalty, however many there
are. -/
inductive PenaltyEntry (label : String) (points : Int) (count : Nat) : List Term → Prop
  | charged (hsome : 0 < count) : PenaltyEntry label points count [⟨label, .clamp points⟩]
  | spared (hnone : count = 0) : PenaltyEntry label points count []

/-- What an input enters into its score. Low vulnerabilities enter nothing. -/
inductive Itemised (input : ScoreInput) : List Term → Prop
  | entries {tier critical high medium criticalBelow highBelow mediumBelow : List Term}
    (htier : TierEntry input.allDependencies.val tier)
    (hcritical : PenaltyEntry "Critical vulnerabilities" (-20) input.direct.critical.val critical)
    (hhigh : PenaltyEntry "High vulnerabilities" (-10) input.direct.high.val high)
    (hmedium : PenaltyEntry "Medium vulnerabilities" (-5) input.direct.medium.val medium)
    (hcriticalBelow : PenaltyEntry "Critical vulnerabilities in dependencies" (-10)
      input.indirect.critical.val criticalBelow)
    (hhighBelow : PenaltyEntry "High vulnerabilities in dependencies" (-7)
      input.indirect.high.val highBelow)
    (hmediumBelow : PenaltyEntry "Medium vulnerabilities in dependencies" (-3)
      input.indirect.medium.val mediumBelow) :
    Itemised input (⟨"Freshness score × 100", basePoints input.freshness⟩ ::
      (tier ++ (critical ++ high ++ medium) ++ (criticalBelow ++ highBelow ++ mediumBelow)))

/-! ### The entries are the terms -/

/-- The ranges leave no number out, and no two of them meet. -/
theorem tierEntry_iff {count : Count} {entries : List Term} :
    TierEntry count.val entries ↔ entries = tierTerm count := by
  unfold tierTerm DependencyTier.ofCount?
  constructor
  · intro h
    cases h with
    | tiny hhigh => rw [if_pos hhigh]; rfl
    | small hlow hhigh => rw [if_neg (by omega), if_pos hhigh]; rfl
    | neutral hlow hhigh =>
      rw [if_neg (by omega), if_neg (by omega), if_neg (by omega), if_neg (by omega)]
      rfl
    | large hlow hhigh =>
      rw [if_neg (by omega), if_neg (by omega), if_neg (by omega), if_pos hlow]
      rfl
    | huge hlow => rw [if_neg (by omega), if_neg (by omega), if_pos hlow]; rfl
  · rintro rfl
    split_ifs with htiny hsmall hhuge hlarge
    · exact .tiny htiny
    · exact .small (by omega) hsmall
    · exact .huge hhuge
    · exact .large hlarge (by omega)
    · exact .neutral (by omega) (by omega)

/-- What a severity enters in a scope, if there are vulnerabilities of it. -/
def charge (scope : Scope) (severity : Severity) (count : Count) : List Term :=
  if count = 0 then []
  else ((Penalty.points? scope severity).map fun points ↦
    ⟨Penalty.label scope severity, points⟩).toList

/-- The charges of a scope follow each other from critical to medium. -/
theorem penalties_eq (scope : Scope) (counts : VulnerabilityCounts) :
    penalties scope counts = charge scope .critical counts.critical ++
      charge scope .high counts.high ++ charge scope .medium counts.medium := by
  have hcharge : penalties scope counts =
      Penalty.severities.flatMap fun severity ↦ charge scope severity (counts.get severity) := by
    rw [penalties, List.filterMap_eq_flatMap_toList]
    congr 1
    ext1 severity
    rw [charge]
    split_ifs <;> rfl
  rw [hcharge, Penalty.severities, List.flatMap_cons, List.flatMap_cons, List.flatMap_cons,
    List.flatMap_nil, List.append_nil, List.append_assoc]
  rfl

private theorem penaltyEntry_iff (scope : Scope) (severity : Severity) {label : String}
    {points : Int}
    {count : Count} {entries : List Term} (hlabel : Penalty.label scope severity = label)
    (hpoints : Penalty.points? scope severity = some (.clamp points)) :
    PenaltyEntry label points count.val entries ↔ entries = charge scope severity count := by
  have hzero : count = 0 ↔ count.val = 0 := Count.ext_iff
  rw [charge, hlabel, hpoints]
  constructor
  · intro h
    cases h with
    | charged hsome =>
      rw [if_neg (fun hnone ↦ by have := hzero.mp hnone; omega)]
      rfl
    | spared hnone => rw [if_pos (hzero.mpr hnone)]
  · rintro rfl
    split_ifs with hnone
    · exact .spared (hzero.mp hnone)
    · exact .charged (Nat.pos_of_ne_zero fun hval ↦ hnone (hzero.mpr hval))

/-- The rules hold of the terms of a score, and of no other entries. -/
theorem itemised_iff {input : ScoreInput} {entries : List Term} :
    Itemised input entries ↔ entries = terms input := by
  unfold terms
  rw [penalties_eq, penalties_eq]
  constructor
  · rintro ⟨htier, hcritical, hhigh, hmedium, hcriticalBelow, hhighBelow, hmediumBelow⟩
    rw [tierEntry_iff.mp htier, (penaltyEntry_iff .direct .critical (by decide) rfl).mp hcritical,
      (penaltyEntry_iff .direct .high (by decide) rfl).mp hhigh,
      (penaltyEntry_iff .direct .medium (by decide) rfl).mp hmedium,
      (penaltyEntry_iff .indirect .critical (by decide) rfl).mp hcriticalBelow,
      (penaltyEntry_iff .indirect .high (by decide) rfl).mp hhighBelow,
      (penaltyEntry_iff .indirect .medium (by decide) rfl).mp hmediumBelow]
    rfl
  · rintro rfl
    exact .entries (tierEntry_iff.mpr rfl)
      ((penaltyEntry_iff .direct .critical (by decide) rfl).mpr rfl)
      ((penaltyEntry_iff .direct .high (by decide) rfl).mpr rfl)
      ((penaltyEntry_iff .direct .medium (by decide) rfl).mpr rfl)
      ((penaltyEntry_iff .indirect .critical (by decide) rfl).mpr rfl)
      ((penaltyEntry_iff .indirect .high (by decide) rfl).mpr rfl)
      ((penaltyEntry_iff .indirect .medium (by decide) rfl).mpr rfl)

/-- The rules settle the entries of every input. Added up from left to right within the bounds of
points, they give the total and nothing else. An explanation is there if and only if it was asked
for, and has these entries with the total as the last one; the total and the grade are the same with
and without it. -/
theorem compute_itemised (input : ScoreInput) (wantsBreakdown : Bool) :
    ∃ entries, (∀ others, Itemised input others ↔ others = entries) ∧
      (∀ total, Points.Accrues 0 (entries.map fun entry ↦ entry.points.val) total ↔
        total = (compute input wantsBreakdown).total.val) ∧
      (compute input wantsBreakdown).breakdown =
        (if wantsBreakdown then
          some (entries ++ [⟨"Total", (compute input wantsBreakdown).total⟩])
        else none) ∧
      ∀ other, (compute input other).total = (compute input wantsBreakdown).total ∧
        (compute input other).grade = (compute input wantsBreakdown).grade := by
  refine ⟨terms input, fun others ↦ itemised_iff, fun total ↦ ?_, rfl, fun other ↦ ⟨rfl, rfl⟩⟩
  have haccrues : Points.Accrues (0 : Points).val (((terms input).map Term.points).map Points.val)
      total ↔ _ := Points.accrues_iff
  rw [List.map_map, List.foldl_map] at haccrues
  exact haccrues

end PackageRisk.Score
