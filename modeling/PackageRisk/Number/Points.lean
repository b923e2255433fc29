import PackageRisk.Number.Power

/-!
# Points

Points lie between -2 ^ 63 and 2 ^ 63 - 1. Adding points never overflows: a sum beyond the bounds is
the bound that it passes.
-/

namespace PackageRisk

/-- An integer between -2 ^ 63 and 2 ^ 63 - 1. -/
structure Points where
  val : Int
  ge : -2 ^ 63 ≤ val
  lt : val < 2 ^ 63
  deriving DecidableEq, Repr

namespace Points

/-- The least points. -/
def least : Int := -2 ^ 63

/-- The greatest points. -/
def greatest : Int := 2 ^ 63 - 1

/-- The points nearest to an integer. -/
def clamp (n : Int) : Points :=
  ⟨max least (min n greatest), by simp only [least, greatest]; omega,
    by simp only [least, greatest]; omega⟩

/-- No points. -/
instance : Zero Points := ⟨⟨0, by decide, by decide⟩⟩

/-- The sum, or the bound that it passes. -/
instance : Add Points := ⟨fun a b ↦ clamp (a.val + b.val)⟩

/-- The decimal text of points. -/
def text (p : Points) : String := toString p.val

/-- The decimal text of points, with a plus sign if they are positive. -/
def signedText (p : Points) : String := if 0 < p.val then "+" ++ p.text else p.text

/-- Points are equal when their numbers are. -/
@[ext] theorem ext {a b : Points} (h : a.val = b.val) : a = b := by
  cases a
  cases b
  cases h
  rfl

/-- Zero points are the number zero. -/
@[simp] theorem val_zero : (0 : Points).val = 0 := rfl

/-- A number is clamped to both ends of the range of points. -/
@[simp] theorem val_clamp (n : Int) : (clamp n).val = max least (min n greatest) := rfl

/-- Addition is exact within the bounds. -/
@[simp] theorem val_add (a b : Points) :
    (a + b).val = max least (min (a.val + b.val) greatest) := rfl

end Points

end PackageRisk
