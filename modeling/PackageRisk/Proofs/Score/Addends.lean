import Mathlib.Data.List.Forall2
import PackageRisk.Score

/-!
# Addends of a score

Every score is a sum over the same places: one for the freshness, one for the tier of the number of
dependencies, and one for each severity that costs points in each scope. The place of a term that a
score does not have adds zero.
-/

namespace PackageRisk

/-- Nothing is added to points within the bounds. -/
theorem Points.add_zero (a : Points) : a + 0 = a := by
  have hge := a.ge
  have hlt := a.lt
  apply Points.ext
  simp only [Points.val_add, Points.val_zero, Points.least, Points.greatest]
  omega

namespace Score

/-- What the number of dependencies adds. -/
def tierPoints (count : Count) : Points :=
  ((DependencyTier.ofCount? count).map DependencyTier.points).getD 0

/-- What the vulnerabilities of a severity add in a scope. -/
def penaltyPoints (scope : Scope) (counts : VulnerabilityCounts) (severity : Severity) : Points :=
  if counts.get severity = 0 then 0 else (Penalty.points? scope severity).getD 0

/-- What the vulnerabilities of a scope add, severity by severity. -/
def penaltyAddends (scope : Scope) (counts : VulnerabilityCounts) : List Points :=
  Penalty.severities.map (penaltyPoints scope counts)

/-- What is added at each place of a score. -/
def addends (input : ScoreInput) : List Points :=
  basePoints input.freshness :: tierPoints input.allDependencies ::
    (penaltyAddends .direct input.direct ++ penaltyAddends .indirect input.indirect)

/-- The points of the tiers by the numbers of dependencies. -/
theorem val_tierPoints (count : Count) :
    (tierPoints count).val =
      if count.val ≤ 5 then 20 else if count.val ≤ 20 then 10 else if 500 ≤ count.val then -20
      else if 100 ≤ count.val then -10 else 0 := by
  unfold tierPoints DependencyTier.ofCount?
  split_ifs <;> rfl

/-- The tier adds to a sum what its place says. -/
theorem foldl_tierTerm (count : Count) (start : Points) :
    (tierTerm count).foldl (fun sum term ↦ sum + term.points) start = start + tierPoints count := by
  unfold tierTerm tierPoints
  cases DependencyTier.ofCount? count with
  | none => exact start.add_zero.symm
  | some tier => rfl

/-- The penalties of a scope add to a sum what their places say. -/
theorem foldl_penalties (scope : Scope) (counts : VulnerabilityCounts) (start : Points) :
    (penalties scope counts).foldl (fun sum term ↦ sum + term.points) start =
      (penaltyAddends scope counts).foldl (· + ·) start := by
  rw [penalties, penaltyAddends, List.foldl_filterMap, List.foldl_map]
  congr 1
  funext sum severity
  unfold penaltyPoints
  split_ifs
  · exact sum.add_zero.symm
  · cases Penalty.points? scope severity with
    | none => exact sum.add_zero.symm
    | some points => rfl

/-- The total is the sum over all places. -/
theorem sum_terms (input : ScoreInput) : sum (terms input) = (addends input).foldl (· + ·) 0 := by
  rw [sum, terms, addends, List.foldl_cons, List.foldl_append, List.foldl_append, foldl_tierTerm,
    foldl_penalties, foldl_penalties, List.foldl_cons, List.foldl_cons, List.foldl_append]

end Score

end PackageRisk
