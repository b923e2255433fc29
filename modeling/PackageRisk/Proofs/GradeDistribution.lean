import Mathlib.Algebra.Ring.Nat
import Mathlib.Data.List.Count
import Mathlib.Data.List.Perm.Basic
import PackageRisk.GradeDistribution

/-!
# What a distribution counts

A distribution is filled grade by grade. Every grade that is inserted is counted once, at its own
place, so the distribution of several grades tells how often each of them is among them, in whatever
order they come.
-/

namespace PackageRisk.GradeDistribution

/-- Distributions with the same numbers are the same. -/
theorem ext_count {distribution other : GradeDistribution}
    (h : ∀ grade, distribution.count grade = other.count grade) : distribution = other := by
  cases distribution
  cases other
  rw [mk.injEq]
  exact ⟨h .a, h .b, h .c, h .d, h .e⟩

@[simp] private theorem count_empty (grade : Grade) : empty.count grade = 0 := by
  cases grade <;> rfl

/-- A package more is one more of all. -/
@[simp] theorem total_insert (distribution : GradeDistribution) (grade : Grade) :
    (distribution.insert grade).total = distribution.total + 1 := by
  simp only [total, Grade.all, List.foldl_cons, List.foldl_nil, count_insert]
  cases grade <;> simp <;> omega

/-- The total of a distribution is the sum of its counts over the grades. -/
theorem total_eq_sum (distribution : GradeDistribution) :
    distribution.total = (Grade.all.map distribution.count).sum := by
  rw [total, List.sum_eq_foldl, List.foldl_map]

/-- Inserting grades counts each of them at its own place. -/
theorem count_foldl_insert (grades : List Grade) (start : GradeDistribution) (grade : Grade) :
    (grades.foldl insert start).count grade = start.count grade + grades.count grade := by
  induction grades generalizing start with
  | nil => rfl
  | cons first rest ih =>
    rw [List.foldl_cons, ih, count_insert, List.count_cons]
    simp only [beq_iff_eq, eq_comm (a := grade)]
    omega

private theorem total_foldl_insert (grades : List Grade) (start : GradeDistribution) :
    (grades.foldl insert start).total = start.total + grades.length := by
  induction grades generalizing start with
  | nil => rfl
  | cons first rest ih =>
    rw [List.foldl_cons, ih, total_insert, List.length_cons]
    omega

/-- A distribution tells how often each grade is among the grades. -/
theorem count_ofGrades (grades : List Grade) (grade : Grade) :
    (ofGrades grades).count grade = grades.count grade := by
  rw [ofGrades, count_foldl_insert, count_empty, Nat.zero_add]

/-- All grades are counted. -/
theorem total_ofGrades (grades : List Grade) : (ofGrades grades).total = grades.length := by
  rw [ofGrades, total_foldl_insert]
  exact Nat.zero_add _

/-- The order of the grades does not matter. -/
theorem ofGrades_perm {grades others : List Grade} (h : grades.Perm others) :
    ofGrades grades = ofGrades others :=
  ext_count fun grade ↦ by rw [count_ofGrades, count_ofGrades, h.count_eq]

/-- No grade is counted more often than there are packages. -/
theorem count_ofGrades_le (grades : List Grade) (grade : Grade) :
    (ofGrades grades).count grade ≤ grades.length := by
  rw [count_ofGrades]
  exact List.count_le_length

end PackageRisk.GradeDistribution
