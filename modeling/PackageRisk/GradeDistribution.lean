import PackageRisk.Grade

/-!
# Grade distributions

How many packages have each of the five grades.
-/

namespace PackageRisk

/-- A number of packages for every grade. -/
structure GradeDistribution where
  a : Nat
  b : Nat
  c : Nat
  d : Nat
  e : Nat
  deriving DecidableEq, Repr

namespace GradeDistribution

/-- No package of any grade. -/
def empty : GradeDistribution := ⟨0, 0, 0, 0, 0⟩

/-- The number of packages with a grade. -/
def count (distribution : GradeDistribution) : Grade → Nat
  | .a => distribution.a
  | .b => distribution.b
  | .c => distribution.c
  | .d => distribution.d
  | .e => distribution.e

/-- One more package with a grade. -/
def insert (distribution : GradeDistribution) : Grade → GradeDistribution
  | .a => { distribution with a := distribution.a + 1 }
  | .b => { distribution with b := distribution.b + 1 }
  | .c => { distribution with c := distribution.c + 1 }
  | .d => { distribution with d := distribution.d + 1 }
  | .e => { distribution with e := distribution.e + 1 }

/-- The distribution of the grades of several packages. -/
def ofGrades (grades : List Grade) : GradeDistribution := grades.foldl insert empty

/-- The number of packages of all grades. -/
def total (distribution : GradeDistribution) : Nat :=
  Grade.all.foldl (fun sum grade ↦ sum + distribution.count grade) 0

/-- All grades with their numbers, best first. -/
def buckets (distribution : GradeDistribution) : List (Grade × Nat) :=
  Grade.all.map fun grade ↦ (grade, distribution.count grade)

/-- A package more shows at its own grade only. -/
@[simp] theorem count_insert (distribution : GradeDistribution) (grade other : Grade) :
    (distribution.insert grade).count other =
      distribution.count other + if other = grade then 1 else 0 := by
  cases grade <;> cases other <;> rfl

end GradeDistribution

end PackageRisk
