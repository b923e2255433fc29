import PackageRisk.Number.Decimal
import PackageRisk.Proofs.Number.Rounding

/-!
# Shortest decimal texts

The digits of a number are a point of a decimal grid among the reals that round to the number. They
are few: had the next coarser grid no such point, then its step is at least as wide as these reals
reach, and they reach at least one part in `2 ^ 54` of their size.
-/

namespace PackageRisk.Decimal

open Binary64

section Grid

variable {tie : Tie} {x : Binary64} {exponent : Int}

/-- The factor that makes the points of a grid whole. -/
def gridScale (exponent : Int) : Nat := 10 ^ (-exponent).toNat

/-- The distance of the points of a grid, in half units times the scale. -/
def gridStep (exponent : Int) : Nat := 2 * one * 10 ^ exponent.toNat

/-- The least real that rounds to the number, in half units. -/
def lowEnd (x : Binary64) : Nat := unitsOfCode (x.code - 1) + x.units

/-- The greatest real that rounds to the number, in half units. -/
def highEnd (x : Binary64) : Nat := x.units + unitsOfCode (x.code + 1)

/-- A point of a grid rounds to the number. -/
def readsBack (x : Binary64) (exponent : Int) (point : Nat) : Bool :=
  let low := lowEnd x * gridScale exponent
  let high := highEnd x * gridScale exponent
  if x.code % 2 = 0 then
    low ≤ point * gridStep exponent && point * gridStep exponent ≤ high
  else low < point * gridStep exponent && point * gridStep exponent < high

/-- The last point of a grid that is not above the number. -/
def pointBelow (x : Binary64) (exponent : Int) : Nat :=
  2 * x.units * gridScale exponent / gridStep exponent

private theorem onGrid_eq (tie : Tie) (x : Binary64) (exponent : Int) :
    onGrid tie x exponent =
      match readsBack x exponent (pointBelow x exponent),
        readsBack x exponent (pointBelow x exponent + 1) with
      | true, true => some (nearer tie (2 * x.units * gridScale exponent) (gridStep exponent)
          (pointBelow x exponent))
      | true, false => some (pointBelow x exponent)
      | false, true => some (pointBelow x exponent + 1)
      | false, false => none := rfl

private theorem gridStep_pos (exponent : Int) : 0 < gridStep exponent := by
  unfold gridStep
  exact Nat.mul_pos (Nat.mul_pos (by decide) Binary64.one_pos) (Nat.pow_pos (by decide))

private theorem gridScale_pos (exponent : Int) : 0 < gridScale exponent := by
  unfold gridScale
  exact Nat.pow_pos (by decide)

-- The powers behind these two are never computed.
attribute [irreducible] gridStep gridScale

/-- The nearer of two neighbours is one of them. -/
theorem nearer_eq (tie : Tie) (num den below : Nat) :
    nearer tie num den below = below ∨ nearer tie num den below = below + 1 := by
  unfold nearer
  dsimp only
  split
  · exact .inl rfl
  · split
    · exact .inr rfl
    · cases tie with
      | toEven =>
        dsimp only
        omega
      | upward => exact .inr rfl

/-- A point that reads back as a number lies between the ends of its interval. -/
theorem readsBack_le {point : Nat} (h : readsBack x exponent point = true) :
    lowEnd x * gridScale exponent ≤ point * gridStep exponent ∧
      point * gridStep exponent ≤ highEnd x * gridScale exponent := by
  unfold readsBack at h
  dsimp only at h
  split at h
  · simpa using h
  · simp only [Bool.and_eq_true, decide_eq_true_eq] at h
    omega

/-- The digits found on a grid round to the number. -/
theorem readsBack_of_onGrid {digits : Nat} (h : onGrid tie x exponent = some digits) :
    readsBack x exponent digits = true := by
  rw [onGrid_eq] at h
  split at h <;> cases h
  · rcases nearer_eq tie (2 * x.units * gridScale exponent) (gridStep exponent)
      (pointBelow x exponent) with heq | heq
    · rwa [heq]
    · rwa [heq]
  · assumption
  · assumption

private theorem units_pred_le (x : Binary64) : unitsOfCode (x.code - 1) ≤ x.units :=
  unitsOfCode_le_iff.mpr (Nat.sub_le ..)

private theorem units_lt_succ (x : Binary64) : x.units < unitsOfCode (x.code + 1) :=
  unitsOfCode_lt_iff.mpr (Nat.lt_succ_self _)

/-- A grid without a point that rounds to the number has a wide step. -/
theorem highEnd_le_of_onGrid_eq_none (h : onGrid tie x exponent = none) :
    highEnd x * gridScale exponent ≤ lowEnd x * gridScale exponent + gridStep exponent := by
  have hbelow : readsBack x exponent (pointBelow x exponent) = false ∧
      readsBack x exponent (pointBelow x exponent + 1) = false := by
    rw [onGrid_eq] at h
    split at h <;> cases h
    exact ⟨by assumption, by assumption⟩
  obtain ⟨hbelow, habove⟩ := hbelow
  have hvalue : pointBelow x exponent * gridStep exponent ≤ 2 * x.units * gridScale exponent :=
    Nat.div_mul_le_self ..
  have hnext : 2 * x.units * gridScale exponent <
      (pointBelow x exponent + 1) * gridStep exponent := by
    rw [Nat.mul_comm (pointBelow x exponent + 1)]
    exact Nat.lt_mul_div_succ _ (gridStep_pos exponent)
  have hlow : lowEnd x * gridScale exponent ≤ 2 * x.units * gridScale exponent := by
    refine Nat.mul_le_mul_right _ ?_
    have := units_pred_le x
    unfold lowEnd
    omega
  have hhigh : 2 * x.units * gridScale exponent < highEnd x * gridScale exponent := by
    refine Nat.mul_lt_mul_of_pos_right ?_ (gridScale_pos exponent)
    have := units_lt_succ x
    unfold highEnd
    omega
  rw [Nat.add_mul, Nat.one_mul] at hnext
  unfold readsBack at hbelow habove
  rw [Nat.add_mul, Nat.one_mul] at habove
  dsimp only at hbelow habove
  split at hbelow
  · rename_i heven
    rw [if_pos heven] at habove
    simp only [Bool.and_eq_false_iff, decide_eq_false_iff_not] at hbelow habove
    omega
  · rename_i hodd
    rw [if_neg hodd] at habove
    simp only [Bool.and_eq_false_iff, decide_eq_false_iff_not] at hbelow habove
    have hlow' : lowEnd x * gridScale exponent < 2 * x.units * gridScale exponent := by
      refine Nat.mul_lt_mul_of_pos_right ?_ (gridScale_pos exponent)
      have : unitsOfCode (x.code - 1) < x.units := unitsOfCode_lt_iff.mpr (by omega)
      unfold lowEnd
      omega
    omega

/-- The reals that round to a number other than zero reach at least one part in `2 ^ 54` of it. -/
theorem highEnd_le_mul_width (hcode : 0 < x.code) :
    highEnd x + 2 ^ 54 * lowEnd x ≤ 2 ^ 54 * highEnd x := by
  obtain ⟨binade, significand, hsplit, hlow, hhigh, hstep⟩ := exists_binade x.code
  have hunits : x.units = significand * 2 ^ binade := by
    rw [units, hsplit, unitsOfCode_binade hlow (Nat.le_of_lt hhigh)]
  have hsucc := unitsOfCode_succ x.code
  have hpred : unitsOfCode (x.code - 1) < x.units := unitsOfCode_lt_iff.mpr (by omega)
  rw [hstep] at hsucc
  change _ = x.units + _ at hsucc
  have hbound : x.units + 2 ^ binade ≤ 2 ^ 53 * 2 ^ binade := by
    rw [hunits, ← Nat.succ_mul]
    exact Nat.mul_le_mul_right _ hhigh
  unfold highEnd lowEnd
  rw [hsucc]
  generalize 2 ^ binade = gap at *
  omega

/-- Going to the next coarser grid multiplies the step by ten, measured in the same scale. -/
theorem gridStep_succ (exponent : Int) :
    gridStep (exponent + 1) * gridScale exponent =
      10 * (gridStep exponent * gridScale (exponent + 1)) := by
  unfold gridStep gridScale
  rcases Int.lt_or_le exponent 0 with hneg | hpos
  · rw [show (exponent + 1).toNat = 0 by omega, show exponent.toNat = 0 by omega,
      show (-exponent).toNat = (-(exponent + 1)).toNat + 1 by omega, Nat.pow_succ]
    generalize 10 ^ (-(exponent + 1)).toNat = scale
    generalize 2 * one * 10 ^ 0 = step
    rw [Nat.mul_comm scale, ← Nat.mul_assoc, ← Nat.mul_assoc, Nat.mul_comm 10]
  · rw [show (exponent + 1).toNat = exponent.toNat + 1 by omega,
      show (-exponent).toNat = 0 by omega, show (-(exponent + 1)).toNat = 0 by omega,
      Nat.pow_succ]
    generalize 10 ^ exponent.toNat = power
    generalize 2 * one = unit
    rw [Nat.pow_zero, Nat.mul_one, Nat.mul_one, ← Nat.mul_assoc, Nat.mul_comm 10]

/-- The digits found on the first grid with a point are few. -/
theorem digits_le_of_onGrid {digits : Nat} (hcode : 0 < x.code)
    (hnone : onGrid tie x (exponent + 1) = none) (h : onGrid tie x exponent = some digits) :
    digits ≤ 10 * 2 ^ 54 := by
  obtain ⟨-, hhigh⟩ := readsBack_le (readsBack_of_onGrid h)
  have hwide := highEnd_le_of_onGrid_eq_none hnone
  have hratio := highEnd_le_mul_width hcode
  have hscaled : highEnd x * gridScale (exponent + 1) ≤ 2 ^ 54 * gridStep (exponent + 1) := by
    have hmul := Nat.mul_le_mul_right (gridScale (exponent + 1)) hratio
    rw [Nat.add_mul, Nat.mul_assoc, Nat.mul_assoc] at hmul
    omega
  have hpos := Nat.mul_pos (gridStep_pos exponent) (gridScale_pos (exponent + 1))
  refine Nat.le_of_mul_le_mul_right ?_ hpos
  calc digits * (gridStep exponent * gridScale (exponent + 1))
      = digits * gridStep exponent * gridScale (exponent + 1) := (Nat.mul_assoc ..).symm
    _ ≤ highEnd x * gridScale exponent * gridScale (exponent + 1) :=
      Nat.mul_le_mul_right _ hhigh
    _ = highEnd x * gridScale (exponent + 1) * gridScale exponent := Nat.mul_right_comm ..
    _ ≤ 2 ^ 54 * gridStep (exponent + 1) * gridScale exponent := Nat.mul_le_mul_right _ hscaled
    _ = 10 * 2 ^ 54 * (gridStep exponent * gridScale (exponent + 1)) := by
      rw [Nat.mul_assoc, gridStep_succ, ← Nat.mul_assoc, Nat.mul_comm 10]

/-- No digits are found that are zero, unless the number is. -/
theorem digits_pos_of_onGrid {digits : Nat} (hcode : 0 < x.code)
    (h : onGrid tie x exponent = some digits) : 0 < digits := by
  obtain ⟨hlow, -⟩ := readsBack_le (readsBack_of_onGrid h)
  have hunits : 0 < x.units := by
    have hzero : unitsOfCode 0 < x.units := unitsOfCode_lt_iff.mpr hcode
    omega
  have hpos : 0 < lowEnd x * gridScale exponent :=
    Nat.mul_pos (Nat.lt_of_lt_of_le hunits (Nat.le_add_left ..)) (gridScale_pos exponent)
  refine Nat.pos_of_ne_zero fun hzero ↦ ?_
  rw [hzero, Nat.zero_mul] at hlow
  omega

private theorem highEnd_le_of_isFinite (hfinite : x.isFinite = true) :
    highEnd x ≤ 2 * one * 2 ^ 1024 := by
  have hcode : x.code < infinityCode := of_decide_eq_true hfinite
  have hunits : x.units ≤ unitsOfCode infinityCode :=
    unitsOfCode_le_iff.mpr (Nat.le_of_lt hcode)
  have hnext : unitsOfCode (x.code + 1) ≤ unitsOfCode infinityCode :=
    unitsOfCode_le_iff.mpr hcode
  have hpow (a b c : Nat) : 2 ^ (a + (b + c)) = 2 ^ (a + b) * 2 ^ c := by
    rw [← Nat.pow_add, Nat.add_assoc]
  have hinfinity : unitsOfCode infinityCode = one * 2 ^ 1024 := by
    rw [show infinityCode = 2046 * 2 ^ 52 + 2 ^ 52 by decide, unitsOfCode_pow, one_eq, ← hpow]
  rw [Nat.mul_assoc, ← hinfinity]
  unfold highEnd
  omega

/-- On the coarsest grid few points are among the finite numbers. -/
theorem digits_le_of_coarsest {digits : Nat} (hfinite : x.isFinite = true)
    (h : onGrid tie x coarsest = some digits) : digits ≤ 10 * 2 ^ 54 := by
  obtain ⟨-, hhigh⟩ := readsBack_le (readsBack_of_onGrid h)
  have htop := highEnd_le_of_isFinite hfinite
  have hscale : gridScale coarsest = 1 := by
    unfold gridScale
    rfl
  have hstep : gridStep coarsest = 2 * one * 10 ^ 308 := by
    unfold gridStep
    rw [show ((coarsest : Nat) : Int).toNat = 308 by decide]
  have hpower : 2 ^ 1024 ≤ 10 * 2 ^ 54 * 10 ^ 308 := by decide +kernel
  rw [hscale, Nat.mul_one, hstep, Nat.mul_left_comm] at hhigh
  have hdigits : digits * 10 ^ 308 ≤ 2 ^ 1024 :=
    Nat.le_of_mul_le_mul_left (Nat.le_trans hhigh htop) (Nat.mul_pos (by decide) Binary64.one_pos)
  exact Nat.le_of_mul_le_mul_right (Nat.le_trans hdigits hpower) (Nat.pow_pos (by decide))

end Grid

/-! ### The first grid with a point -/

/-- The shortest digits of a finite number are few. If they are zero, so is their exponent; if not,
they are a point of their grid that rounds to the number. -/
theorem shortest_spec {tie : Tie} {x : Binary64} (hfinite : x.isFinite = true) :
    (shortest tie x = ⟨0, 0⟩ ∨
      0 < (shortest tie x).digits ∧ (shortest tie x).digits ≤ 10 * 2 ^ 54 ∧
      -325 < (shortest tie x).exponent ∧ (shortest tie x).exponent ≤ 308 ∧
      readsBack x (shortest tie x).exponent (shortest tie x).digits = true) := by
  unfold shortest
  split
  · exact .inl rfl
  · rename_i hcode
    dsimp only
    generalize hfound : ((List.range gridCount).findSome? fun (finer : Nat) ↦
      (onGrid tie x (coarsest - finer)).map fun digits ↦
        Decimal.mk digits (coarsest - finer)) = found
    cases found with
    | none => exact .inl rfl
    | some d =>
      obtain ⟨before, finer, after, hrange, hgrid, hnone⟩ := List.findSome?_eq_some_iff.mp hfound
      obtain ⟨digits, hdigits, rfl⟩ := Option.map_eq_some_iff.mp hgrid
      have hpos : 0 < x.code := Nat.pos_of_ne_zero hcode
      rw [List.range_eq_range', List.range'_eq_append_iff] at hrange
      obtain ⟨count, hcount, rfl, hcons⟩ := hrange
      obtain ⟨hfiner, hleft, -⟩ := List.range'_eq_cons_iff.mp hcons.symm
      have hbound : finer < gridCount := by omega
      have hexponent : -325 < (coarsest : Int) - finer ∧ (coarsest : Int) - finer ≤ 308 := by
        unfold gridCount at hbound
        unfold coarsest
        omega
      have hdigits_le : digits ≤ 10 * 2 ^ 54 := by
        cases finer with
        | zero => exact digits_le_of_coarsest hfinite (by simpa using hdigits)
        | succ previous =>
          have hmem : previous ∈ List.range' 0 count := by
            rw [List.mem_range'_1]
            omega
          have hprevious := Option.map_eq_none_iff.mp (hnone previous hmem)
          refine digits_le_of_onGrid hpos ?_ hdigits
          rwa [show (coarsest : Int) - (previous + 1 : Nat) + 1 = coarsest - previous by omega]
      exact .inr ⟨digits_pos_of_onGrid hpos hdigits, hdigits_le, hexponent.1, hexponent.2,
        readsBack_of_onGrid hdigits⟩

end PackageRisk.Decimal
