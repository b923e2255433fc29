import Mathlib.Algebra.Ring.Nat
import PackageRisk.Number.Count

/-!
# Sums of counts

Counts that are added one after the other are clamped at every step. No count is negative, so the
result is the exact sum, clamped once.
-/

namespace PackageRisk.Count

/-- Counts add up to zero only if each of them is zero. -/
theorem add_eq_zero_iff {a b : Count} : a + b = 0 ↔ a = 0 ∧ b = 0 := by
  simp only [Count.ext_iff, val_add, val_zero, max]
  omega

variable {α : Type} {step : Count → α → Count} {weight : α → Nat}

/-- Each step adds the weight of its item. -/
def Adds (step : Count → α → Count) (weight : α → Nat) : Prop :=
  ∀ count item, (step count item).val = min (count.val + weight item) max

/-- The sum of all weights, clamped once at the end. -/
theorem val_foldl (hstep : Adds step weight) (items : List α) (start : Count) :
    (items.foldl step start).val = min (start.val + (items.map weight).sum) max := by
  induction items generalizing start with
  | nil =>
    have hstart := start.val_le_max
    simp only [List.foldl_nil, List.map_nil, List.sum_nil]
    omega
  | cons item rest ih =>
    rw [List.foldl_cons, ih, hstep, List.map_cons, List.sum_cons]
    omega

/-- The items of two lists can be added up list by list. -/
theorem foldl_append (hstep : Adds step weight) (items more : List α) :
    (items ++ more).foldl step 0 = items.foldl step 0 + more.foldl step 0 := by
  apply Count.ext
  rw [val_add, val_foldl hstep, val_foldl hstep, val_foldl hstep, List.map_append, List.sum_append,
    val_zero]
  omega

end PackageRisk.Count
