import Mathlib.Algebra.Ring.Int.Defs
import PackageRisk.Number.Points

/-!
# Sums of points

Points that are added one after the other are clamped at every step. If neither all losses nor all
gains together lead beyond the bounds, no sum on the way does, and the result is the exact sum.
-/

namespace PackageRisk.Points

/-- What the negative points add up to. -/
def losses (addends : List Points) : Int := (addends.map fun p ↦ min p.val 0).sum

/-- What the positive points add up to. -/
def gains (addends : List Points) : Int := (addends.map fun p ↦ max p.val 0).sum

variable {addends : List Points}

/-- Nothing loses nothing. -/
@[simp] theorem losses_nil : losses [] = 0 := rfl

/-- The first addend adds what it takes away to the losses. -/
@[simp] theorem losses_cons (p : Points) (addends : List Points) :
    losses (p :: addends) = min p.val 0 + losses addends := by
  rw [losses, List.map_cons, List.sum_cons, losses]

/-- The losses of two lists of addends add up. -/
@[simp] theorem losses_append (addends more : List Points) :
    losses (addends ++ more) = losses addends + losses more := by
  rw [losses, List.map_append, List.sum_append, losses, losses]

/-- Nothing gains nothing. -/
@[simp] theorem gains_nil : gains [] = 0 := rfl

/-- The first addend adds what it gives to the gains. -/
@[simp] theorem gains_cons (p : Points) (addends : List Points) :
    gains (p :: addends) = max p.val 0 + gains addends := by
  rw [gains, List.map_cons, List.sum_cons, gains]

/-- The gains of two lists of addends add up. -/
@[simp] theorem gains_append (addends more : List Points) :
    gains (addends ++ more) = gains addends + gains more := by
  rw [gains, List.map_append, List.sum_append, gains, gains]

/-- Losses are never above zero. -/
theorem losses_le_zero (addends : List Points) : losses addends ≤ 0 := by
  induction addends with
  | nil => exact Int.le_refl 0
  | cons p rest ih =>
    rw [losses_cons]
    omega

/-- Gains are never below zero. -/
theorem zero_le_gains (addends : List Points) : 0 ≤ gains addends := by
  induction addends with
  | nil => exact Int.le_refl 0
  | cons p rest ih =>
    rw [gains_cons]
    omega

/-- The sum is exact if the losses alone and the gains alone stay within the bounds. -/
theorem val_foldl_add {start : Points} (hleast : least ≤ start.val + losses addends)
    (hgreatest : start.val + gains addends ≤ greatest) :
    (addends.foldl (· + ·) start).val = start.val + (addends.map val).sum := by
  induction addends generalizing start with
  | nil => simp
  | cons p rest ih =>
    have hlosses := losses_le_zero rest
    have hgains := zero_le_gains rest
    rw [losses_cons] at hleast
    rw [gains_cons] at hgreatest
    have hexact : (start + p).val = start.val + p.val := by
      rw [val_add]
      omega
    rw [List.foldl_cons, ih (by omega) (by omega), hexact, List.map_cons, List.sum_cons]
    omega

end PackageRisk.Points
