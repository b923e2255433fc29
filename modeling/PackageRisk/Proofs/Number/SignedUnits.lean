import PackageRisk.Proofs.Number.Rounding

/-!
# Binary64 numbers as signed units

A finite number stands for an integer number of units. The two zeros stand for the same integer, and
for every other integer there is at most one number. What a product rounds to as an integer depends
on these integers only.
-/

namespace PackageRisk.Binary64

/-- The number of units of 2 ^ -1074, with its sign. -/
def signedUnits (x : Binary64) : Int := if x.negative then -x.units else x.units

private theorem natAbs_signedUnits (x : Binary64) : x.signedUnits.natAbs = x.units := by
  unfold signedUnits
  split <;> omega

/-- Only zero comes with both signs. -/
theorem eq_of_signedUnits_eq {x y : Binary64} (h : x.signedUnits = y.signedUnits) :
    x.units = y.units ∧ (x.units = 0 ∨ x.negative = y.negative) := by
  have hunits : x.units = y.units := by
    rw [← natAbs_signedUnits, ← natAbs_signedUnits, h]
  refine ⟨hunits, ?_⟩
  by_cases hnegative : x.negative = y.negative
  · exact .inr hnegative
  · -- Signs differ, so the common magnitude is its own opposite.
    unfold signedUnits at h
    left
    grind

/-- Zero is rounded to zero, as a number and then as an integer. -/
theorem round_ofUnits_zero (negative : Bool) {den : Nat} (hden : 0 < den) :
    (ofUnits negative 0 den).round = 0 := by
  have hcode : nearestCode 0 den ≤ 0 := nearestCode_le_of_le hden (by omega)
  have hunits : (ofUnits negative 0 den).units = 0 := by
    change unitsOfCode (nearestCode 0 den) = 0
    rw [Nat.le_zero.mp hcode]
    rfl
  have hhalf : one / 2 / one = 0 := Nat.div_eq_of_lt (Nat.div_lt_self one_pos (by decide))
  unfold round
  rw [hunits, Nat.zero_add, hhalf]
  split <;> rfl

/-- Equal integers of units give equal rounded products. -/
theorem round_mul_congr {x y : Binary64} (h : x.signedUnits = y.signedUnits) (z : Binary64) :
    (x.mul z).round = (y.mul z).round := by
  obtain ⟨hunits, hzero | hnegative⟩ := eq_of_signedUnits_eq h
  · unfold mul
    rw [← hunits, hzero, Nat.zero_mul, round_ofUnits_zero _ one_pos, round_ofUnits_zero _ one_pos]
  · unfold mul
    rw [hunits, hnegative]

end PackageRisk.Binary64
