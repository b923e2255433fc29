import PackageRisk.Proofs.Number.PointSum
import PackageRisk.Score

/-!
# Exact totals

The terms of a score besides the freshness cost 75 points at most and bring 20 points at most. So
the total is the exact sum of all terms unless the freshness is close to a bound of points.
-/

namespace PackageRisk.Score

open Points (losses gains)

/-- The tier costs 20 points at most and brings as many at most. -/
theorem bounds_tierTerm (count : Count) :
    -20 ≤ losses ((tierTerm count).map Term.points) ∧
      gains ((tierTerm count).map Term.points) ≤ 20 := by
  unfold tierTerm
  cases DependencyTier.ofCount? count with
  | none => decide
  | some tier => cases tier <;> decide

/-- All penalties of a scope together. -/
def worstPenalty : Scope → Int
  | .direct => -35
  | .indirect => -20

/-- Penalties bring nothing, and cost no more than all of their scope. -/
theorem bounds_penalties (scope : Scope) (counts : VulnerabilityCounts) :
    worstPenalty scope ≤ losses ((penalties scope counts).map Term.points) ∧
      gains ((penalties scope counts).map Term.points) = 0 := by
  unfold penalties Penalty.severities
  simp only [List.filterMap_cons, List.filterMap_nil]
  by_cases hcritical : counts.get .critical = 0 <;> by_cases hhigh : counts.get .high = 0 <;>
    by_cases hmedium : counts.get .medium = 0 <;>
    simp only [hcritical, hhigh, hmedium, if_true, if_false] <;> cases scope <;> decide

/-- A sum of terms is the sum of their points. -/
theorem sum_eq_foldl (entries : List Term) :
    sum entries = (entries.map Term.points).foldl (· + ·) 0 :=
  List.foldl_map.symm

/-- The total is the exact sum of all terms if the freshness keeps its distance to the bounds. -/
theorem val_sum_terms {input : ScoreInput}
    (hleast : Points.least + 75 ≤ (basePoints input.freshness).val)
    (hgreatest : (basePoints input.freshness).val ≤ Points.greatest - 20) :
    (sum (terms input)).val = ((terms input).map fun term ↦ term.points.val).sum := by
  have htier := bounds_tierTerm input.allDependencies
  have hdirect := bounds_penalties .direct input.direct
  have hindirect := bounds_penalties .indirect input.indirect
  simp only [worstPenalty] at hdirect hindirect
  have hlosses : Points.least ≤ (0 : Points).val + losses ((terms input).map Term.points) := by
    simp only [terms, List.map_cons, List.map_append, Points.losses_cons, Points.losses_append,
      Points.val_zero, Points.least] at hleast ⊢
    omega
  have hgains : (0 : Points).val + gains ((terms input).map Term.points) ≤ Points.greatest := by
    simp only [terms, List.map_cons, List.map_append, Points.gains_cons, Points.gains_append,
      Points.val_zero, Points.greatest] at hgreatest ⊢
    omega
  rw [sum_eq_foldl, Points.val_foldl_add hlosses hgains, Points.val_zero, Int.zero_add,
    List.map_map]
  rfl

end PackageRisk.Score
