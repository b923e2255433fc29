import PackageRisk.Number.Binary64

/-!
# Rounding to binary64

Codes count the magnitudes of binary64 numbers in their order. Rounding a quotient of units to the
nearest code keeps the order and every magnitude that has a code, and moves the quotient by at most
half a step of its binade.
-/

namespace PackageRisk.Binary64

/-- One is a power of two. -/
theorem one_eq : one = 2 ^ (52 + 1022) := by
  unfold one
  rw [show 52 + 1022 = 1074 by decide]

/-- One is a positive number of units. -/
theorem one_pos : 0 < one := by
  unfold one
  exact Nat.two_pow_pos 1074

/-- The step from the magnitude of a code to the next one. -/
def step (code : Nat) : Nat := 2 ^ (code / 2 ^ 52 - 1)

/-- A code is a binade and a significand, which is below `2 ^ 52` in the lowest binade only. -/
theorem unitsOfCode_binade {binade significand : Nat} (hlow : binade = 0 ∨ 2 ^ 52 ≤ significand)
    (hhigh : significand ≤ 2 ^ 53) :
    unitsOfCode (binade * 2 ^ 52 + significand) = significand * 2 ^ binade := by
  unfold unitsOfCode
  split
  · rename_i hcode
    obtain rfl : binade = 0 := by omega
    simp
  · rename_i hcode
    by_cases htop : significand = 2 ^ 53
    · have hdiv : (binade * 2 ^ 52 + significand) / 2 ^ 52 = binade + 2 := by omega
      have hmod : (binade * 2 ^ 52 + significand) % 2 ^ 52 = 0 := by omega
      rw [hdiv, hmod, htop, show binade + 2 - 1 = binade + 1 by omega, Nat.add_zero, ← Nat.pow_add,
        ← Nat.pow_add, show 52 + (binade + 1) = 53 + binade by omega]
    · have hge : 2 ^ 52 ≤ significand := by omega
      have hdiv : (binade * 2 ^ 52 + significand) / 2 ^ 52 = binade + 1 := by omega
      have hmod : (binade * 2 ^ 52 + significand) % 2 ^ 52 = significand - 2 ^ 52 := by omega
      rw [hdiv, hmod, show binade + 1 - 1 = binade by omega, Nat.add_sub_cancel' hge]

/-- Every code has a binade and a significand. -/
theorem exists_binade (code : Nat) : ∃ binade significand, code = binade * 2 ^ 52 + significand ∧
    (binade = 0 ∨ 2 ^ 52 ≤ significand) ∧ significand < 2 ^ 53 ∧ step code = 2 ^ binade := by
  refine ⟨code / 2 ^ 52 - 1, code - (code / 2 ^ 52 - 1) * 2 ^ 52, ?_, ?_, ?_, rfl⟩ <;> omega

/-- The magnitudes of codes are a step apart. -/
theorem unitsOfCode_succ (code : Nat) :
    unitsOfCode (code + 1) = unitsOfCode code + step code := by
  obtain ⟨binade, significand, rfl, hlow, hhigh, hstep⟩ := exists_binade code
  rw [hstep, Nat.add_assoc, unitsOfCode_binade (by omega) (by omega),
    unitsOfCode_binade hlow (by omega), Nat.add_mul, Nat.one_mul]

private theorem step_pos (code : Nat) : 0 < step code := Nat.two_pow_pos _

/-- Greater codes have greater magnitudes. -/
theorem unitsOfCode_lt_iff {a b : Nat} : unitsOfCode a < unitsOfCode b ↔ a < b := by
  have mono : ∀ {a b : Nat}, a < b → unitsOfCode a < unitsOfCode b := by
    intro a b h
    induction h with
    | refl => rw [unitsOfCode_succ]; exact Nat.lt_add_of_pos_right (step_pos a)
    | step _ ih => rw [unitsOfCode_succ]; omega
  refine ⟨fun h ↦ ?_, mono⟩
  rcases Nat.lt_trichotomy a b with hlt | rfl | hgt
  · exact hlt
  · omega
  · have := mono hgt
    omega

/-- The number of units grows with the code. -/
theorem unitsOfCode_le_iff {a b : Nat} : unitsOfCode a ≤ unitsOfCode b ↔ a ≤ b := by
  have := @unitsOfCode_lt_iff b a
  omega

/-! ### Rounding a quotient -/

/-- Rounding moves a quotient by at most one half. -/
theorem divToEven_near (num : Nat) {den : Nat} (hden : 0 < den) :
    2 * (divToEven num den * den) ≤ 2 * num + den ∧
      2 * num ≤ 2 * (divToEven num den * den) + den := by
  have hdiv := Nat.div_add_mod num den
  have hmod := Nat.mod_lt num hden
  have hcomm : den * (num / den) = num / den * den := Nat.mul_comm ..
  unfold divToEven
  dsimp only
  split
  · rename_i h
    simp only [Bool.or_eq_true, Bool.and_eq_true, decide_eq_true_eq, beq_iff_eq] at h
    rw [Nat.add_mul, Nat.one_mul]
    omega
  · rename_i h
    simp only [Bool.or_eq_true, Bool.and_eq_true, decide_eq_true_eq, beq_iff_eq, not_or] at h
    omega

/-- A quotient of at least a natural number is rounded to at least this number. -/
theorem le_divToEven {num den n : Nat} (hden : 0 < den) (h : n * den ≤ num) :
    n ≤ divToEven num den := by
  have hquotient : n ≤ num / den := (Nat.le_div_iff_mul_le hden).mpr h
  unfold divToEven
  dsimp only
  split <;> omega

/-- A quotient of at most a natural number is rounded to at most this number. -/
theorem divToEven_le {num den n : Nat} (hden : 0 < den) (h : num ≤ n * den) :
    divToEven num den ≤ n := by
  obtain ⟨hupper, -⟩ := divToEven_near num hden
  have hbelow : divToEven num den * den < (n + 1) * den := by
    rw [Nat.add_mul, Nat.one_mul]
    omega
  exact Nat.lt_succ_iff.mp (Nat.lt_of_mul_lt_mul_right hbelow)

section Nearest

variable {num den : Nat}

/-- The binade of a quotient of units. -/
def binadeOf (num den : Nat) : Nat := (num / den).log2 - 52

/-- The significand of a quotient of units, rounded in its binade. -/
def significandOf (num den : Nat) : Nat := divToEven num (den * 2 ^ binadeOf num den)

private theorem nearestCode_eq (num den : Nat) : nearestCode num den =
    min infinityCode (binadeOf num den * 2 ^ 52 + significandOf num den) := rfl

/-- A quotient lies below the end of its binade. -/
theorem lt_binade_end (num : Nat) (hden : 0 < den) : num < 2 ^ (53 + binadeOf num den) * den := by
  have hlog : num / den < 2 ^ ((num / den).log2 + 1) := Nat.lt_log2_self
  have hle : 2 ^ ((num / den).log2 + 1) ≤ 2 ^ (53 + binadeOf num den) :=
    Nat.pow_le_pow_right (by decide) (by unfold binadeOf; omega)
  exact (Nat.div_lt_iff_lt_mul hden).mp (Nat.lt_of_lt_of_le hlog hle)

/-- A quotient lies above the start of its binade, unless this is the lowest one. -/
theorem binade_start_le (hden : 0 < den) (hbinade : binadeOf num den ≠ 0) :
    2 ^ (52 + binadeOf num den) * den ≤ num := by
  have hlog : (num / den).log2 = 52 + binadeOf num den := by
    unfold binadeOf at hbinade ⊢
    omega
  have hne : num / den ≠ 0 := fun h ↦ by simp [h] at hlog; omega
  have hself := Nat.log2_self_le hne
  rw [hlog] at hself
  exact (Nat.le_div_iff_mul_le hden).mp hself

private theorem significandOf_le (hden : 0 < den) : significandOf num den ≤ 2 ^ 53 := by
  refine divToEven_le (Nat.mul_pos hden (Nat.two_pow_pos _)) ?_
  have hend := lt_binade_end num hden
  rw [Nat.pow_add, Nat.mul_assoc, Nat.mul_comm _ den] at hend
  exact Nat.le_of_lt hend

private theorem le_significandOf (hden : 0 < den) (hbinade : binadeOf num den ≠ 0) :
    2 ^ 52 ≤ significandOf num den := by
  refine le_divToEven (Nat.mul_pos hden (Nat.two_pow_pos _)) ?_
  have hstart := binade_start_le hden hbinade
  rwa [Nat.pow_add, Nat.mul_assoc, Nat.mul_comm _ den] at hstart

/-- Before it is cut off at infinity, the nearest code has the rounded significand. -/
theorem unitsOfCode_rounded (hden : 0 < den) :
    unitsOfCode (binadeOf num den * 2 ^ 52 + significandOf num den) =
      significandOf num den * 2 ^ binadeOf num den := by
  refine unitsOfCode_binade ?_ (significandOf_le hden)
  by_cases hbinade : binadeOf num den = 0
  · exact .inl hbinade
  · exact .inr (le_significandOf hden hbinade)

/-- A quotient of at most the magnitude of a code is rounded to at most this code. -/
theorem nearestCode_le_of_le (hden : 0 < den) {code : Nat} (h : num ≤ unitsOfCode code * den) :
    nearestCode num den ≤ code := by
  rw [nearestCode_eq]
  refine Nat.le_trans (Nat.min_le_right ..) ?_
  obtain ⟨significand, rfl, hlow⟩ : ∃ significand,
      code = binadeOf num den * 2 ^ 52 + significand ∧
        (binadeOf num den = 0 ∨ 2 ^ 52 ≤ significand) := by
    by_cases hbinade : binadeOf num den = 0
    · exact ⟨code, by omega, .inl hbinade⟩
    · have hstart := Nat.le_of_mul_le_mul_right
        (Nat.le_trans (binade_start_le hden hbinade) h) hden
      rw [Nat.pow_add, ← unitsOfCode_binade (.inr (Nat.le_refl _)) (by decide),
        unitsOfCode_le_iff] at hstart
      exact ⟨code - binadeOf num den * 2 ^ 52, by omega, .inr (by omega)⟩
  refine Nat.add_le_add_left ?_ _
  by_cases htop : 2 ^ 53 ≤ significand
  · exact Nat.le_trans (significandOf_le hden) htop
  · rw [unitsOfCode_binade hlow (by omega)] at h
    refine divToEven_le (Nat.mul_pos hden (Nat.two_pow_pos _)) ?_
    rwa [Nat.mul_comm den, ← Nat.mul_assoc]

/-- A quotient of at least the magnitude of a code is rounded to at least this code. -/
theorem le_nearestCode (hden : 0 < den) {code : Nat} (hcode : code ≤ infinityCode)
    (h : unitsOfCode code * den ≤ num) : code ≤ nearestCode num den := by
  rw [nearestCode_eq]
  refine Nat.le_min.mpr ⟨hcode, ?_⟩
  have hend : unitsOfCode code < 2 ^ (53 + binadeOf num den) :=
    Nat.lt_of_mul_lt_mul_right (Nat.lt_of_le_of_lt h (lt_binade_end num hden))
  rw [Nat.pow_add, ← unitsOfCode_binade (.inr (by decide)) (Nat.le_refl _), unitsOfCode_lt_iff]
    at hend
  by_cases hlow : binadeOf num den ≠ 0 ∧ code ≤ binadeOf num den * 2 ^ 52 + 2 ^ 52
  · have := le_significandOf hden hlow.1
    omega
  · obtain ⟨significand, rfl⟩ : ∃ significand, code = binadeOf num den * 2 ^ 52 + significand :=
      ⟨code - binadeOf num den * 2 ^ 52, by omega⟩
    rw [unitsOfCode_binade (by omega) (by omega), Nat.mul_assoc, Nat.mul_comm _ den] at h
    exact Nat.add_le_add_left (le_divToEven (Nat.mul_pos hden (Nat.two_pow_pos _)) h) _

/-- Above the subnormal numbers, rounding adds at most one part in `2 ^ 53`. -/
theorem unitsOfCode_nearestCode_le (hden : 0 < den) (hnum : 2 ^ 52 * den ≤ num) :
    unitsOfCode (nearestCode num den) * den * 2 ^ 53 ≤ num * (2 ^ 53 + 1) := by
  have hstart : 2 ^ 52 * (den * 2 ^ binadeOf num den) ≤ num := by
    by_cases hbinade : binadeOf num den = 0
    · rwa [hbinade, Nat.pow_zero, Nat.mul_one]
    · have hstart := binade_start_le hden hbinade
      rwa [Nat.pow_add, Nat.mul_assoc, Nat.mul_comm _ den] at hstart
  have hcut : unitsOfCode (nearestCode num den) * den ≤
      significandOf num den * (den * 2 ^ binadeOf num den) := by
    rw [Nat.mul_comm den, ← Nat.mul_assoc, ← unitsOfCode_rounded hden]
    exact Nat.mul_le_mul_right _ (unitsOfCode_le_iff.mpr (Nat.min_le_right ..))
  obtain ⟨hnear, -⟩ := divToEven_near num (Nat.mul_pos hden (Nat.two_pow_pos _))
  change 2 * (significandOf num den * (den * 2 ^ binadeOf num den)) ≤ _ at hnear
  omega

end Nearest

/-! ### Bounds of rounded numbers -/

section Bounds

variable {negative : Bool} {num den : Nat}

/-- The code of a power of two that is a normal number. -/
theorem unitsOfCode_pow (exponent : Nat) :
    unitsOfCode (exponent * 2 ^ 52 + 2 ^ 52) = 2 ^ (52 + exponent) := by
  rw [unitsOfCode_binade (.inr (Nat.le_refl _)) (by decide), Nat.pow_add]

/-- Rounding does not pass a power of two from below. -/
theorem units_ofUnits_le_pow (hden : 0 < den) {exponent : Nat}
    (h : num ≤ 2 ^ (52 + exponent) * den) :
    (ofUnits negative num den).units ≤ 2 ^ (52 + exponent) := by
  rw [← unitsOfCode_pow] at h ⊢
  exact unitsOfCode_le_iff.mpr (nearestCode_le_of_le hden h)

/-- Rounding does not pass a power of two from above. -/
theorem pow_le_units_ofUnits (hden : 0 < den) {exponent : Nat} (hexponent : exponent ≤ 2046)
    (h : 2 ^ (52 + exponent) * den ≤ num) :
    2 ^ (52 + exponent) ≤ (ofUnits negative num den).units := by
  rw [← unitsOfCode_pow] at h ⊢
  have hcode : exponent * 2 ^ 52 + 2 ^ 52 ≤ infinityCode := by
    unfold infinityCode
    omega
  exact unitsOfCode_le_iff.mpr (le_nearestCode hden hcode h)

/-- Rounding a natural number adds at most one part in `2 ^ 53`. -/
theorem units_ofNat_mul_le {n : Nat} (hn : 0 < n) :
    (ofNat n).units * 2 ^ 53 ≤ n * one * (2 ^ 53 + 1) := by
  have hone : 2 ^ 52 ≤ one := by
    rw [one_eq]
    exact Nat.pow_le_pow_right (by decide) (Nat.le_add_right ..)
  have hnum : 2 ^ 52 * 1 ≤ n * one := by
    rw [Nat.mul_one]
    exact Nat.le_trans hone (Nat.le_mul_of_pos_left one hn)
  have hnear := unitsOfCode_nearestCode_le Nat.one_pos hnum
  rwa [Nat.mul_one] at hnear

/-- A quotient of at most the greatest magnitude is rounded to a finite number. -/
theorem isFinite_ofUnits (hden : 0 < den) (h : num ≤ unitsOfCode (infinityCode - 1) * den) :
    (ofUnits negative num den).isFinite = true := by
  have hle : (ofUnits negative num den).code ≤ infinityCode - 1 := nearestCode_le_of_le hden h
  have hpos : 0 < infinityCode := by decide
  exact decide_eq_true (by omega)

/-- A number of at most a power of two that is finite is finite. -/
theorem isFinite_of_units_le {x : Binary64} {exponent : Nat} (hexponent : exponent ≤ 2045)
    (h : x.units ≤ 2 ^ (52 + exponent)) : x.isFinite = true := by
  rw [← unitsOfCode_pow] at h
  have hle : x.code ≤ exponent * 2 ^ 52 + 2 ^ 52 := unitsOfCode_le_iff.mp h
  refine decide_eq_true ?_
  unfold infinityCode
  omega

end Bounds

end PackageRisk.Binary64
