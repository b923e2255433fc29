import Mathlib.Algebra.BigOperators.Group.List.Lemmas
import Mathlib.Algebra.Ring.Nat
import PackageRisk.Number.Count

/-!
# Clamping and sums

Clamping turns sums of numbers into sums of counts: it does not matter whether numbers are clamped
before they are added or after, nor how often. Counts form a commutative monoid for this reason, and
a sum of counts is the exact sum, clamped once.
-/

namespace PackageRisk.Count

/-- Counts are added in any order and grouping. -/
instance : AddCommMonoid Count where
  add_assoc a b c := by
    apply Count.ext
    simp only [val_add]
    omega
  zero_add a := by
    have ha := a.val_le_max
    apply Count.ext
    simp only [val_add, val_zero]
    omega
  add_zero a := by
    have ha := a.val_le_max
    apply Count.ext
    simp only [val_add, val_zero]
    omega
  add_comm a b := by
    apply Count.ext
    simp only [val_add, Nat.add_comm]
  nsmul := nsmulRec

/-- Clamping respects sums. -/
def clampHom : ℕ →+ Count where
  toFun := clamp
  map_zero' := rfl
  map_add' m n := by
    apply Count.ext
    simp only [val_clamp, val_add]
    omega

/-- A count is not changed by clamping. -/
theorem clampHom_val (c : Count) : clampHom c.val = c := by
  have hc := c.val_le_max
  apply Count.ext
  change min c.val max = c.val
  omega

/-- A sum of counts is the exact sum, clamped once. -/
theorem val_sum (counts : List Count) : counts.sum.val = min (counts.map val).sum max := by
  have hcounts : (counts.map val).map clampHom = counts := by
    rw [List.map_map]
    exact List.map_id'' clampHom_val counts
  calc counts.sum.val = ((counts.map val).map clampHom).sum.val := by rw [hcounts]
    _ = (clampHom (counts.map val).sum).val := by rw [map_list_sum]
    _ = min (counts.map val).sum max := rfl

end PackageRisk.Count
