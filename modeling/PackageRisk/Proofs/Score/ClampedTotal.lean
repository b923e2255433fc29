import PackageRisk.Proofs.Number.SumOrder
import PackageRisk.Proofs.Score.Addends
import PackageRisk.Proofs.Score.ExactTotal
import PackageRisk.Proofs.Score.Explanation

/-!
# Clamped totals

The terms of a score are added up one after the other, and no sum on the way passes a bound of
points. The total is the exact sum of all terms, clamped once, unless the freshness and the tier
lead beyond the greatest points and a penalty follows. Whether other orders of the terms give the
same total depends on the least points too: they can be passed by the freshness and the penalties
before the tier leads back.
-/

namespace PackageRisk

/-- There is a vulnerability of a severity that costs points. -/
def ScoreInput.IsPenalised (input : ScoreInput) : Prop :=
  ∃ scope, ∃ severity ∈ Penalty.severities, (input.vulnerabilities scope).get severity ≠ 0

/-- Every penalty costs something. -/
theorem Penalty.val_lt_zero {scope : Scope} {severity : Severity} {points : Points}
    (h : points? scope severity = some points) : points.val < 0 := by
  cases scope <;> cases severity <;> cases h <;> decide

namespace Score

open Points (losses gains least greatest NeverTurnsBack)

/-- All penalties of a score, in their order. -/
def charges (input : ScoreInput) : List Term :=
  penalties .direct input.direct ++ penalties .indirect input.indirect

/-- What the penalties add up to. -/
def chargeSum (input : ScoreInput) : Int := ((charges input).map fun term ↦ term.points.val).sum

/-- What all terms add up to, without bounds. -/
def exactTotal (input : ScoreInput) : Int := ((terms input).map fun term ↦ term.points.val).sum

private theorem sum_val_eq (entries : List Term) :
    (entries.map fun term ↦ term.points.val).sum =
      losses (entries.map Term.points) + gains (entries.map Term.points) := by
  rw [← Points.sum_eq_losses_add_gains, List.map_map]
  rfl

private theorem terms_eq_charges (input : ScoreInput) :
    terms input = ⟨freshnessLabel, basePoints input.freshness⟩ ::
      (tierTerm input.allDependencies ++ charges input) := by
  rw [terms, charges, List.append_assoc]

/-! ### What is gained and what is lost -/

private theorem totals_tierTerm (count : Count) :
    losses ((tierTerm count).map Term.points) = min (tierPoints count).val 0 ∧
      gains ((tierTerm count).map Term.points) = max (tierPoints count).val 0 := by
  unfold tierTerm tierPoints
  cases DependencyTier.ofCount? count with
  | none => decide
  | some tier => cases tier <;> decide

/-- Penalties gain nothing. -/
theorem totals_charges (input : ScoreInput) :
    losses ((charges input).map Term.points) = chargeSum input ∧
      gains ((charges input).map Term.points) = 0 := by
  have hdirect := bounds_penalties .direct input.direct
  have hindirect := bounds_penalties .indirect input.indirect
  have hgains : gains ((charges input).map Term.points) = 0 := by
    rw [charges, List.map_append, Points.gains_append]
    omega
  rw [chargeSum, sum_val_eq]
  omega

/-- All penalties together cost 55 points at most. -/
theorem bounds_chargeSum (input : ScoreInput) : -55 ≤ chargeSum input ∧ chargeSum input ≤ 0 := by
  have hdirect := bounds_penalties .direct input.direct
  have hindirect := bounds_penalties .indirect input.indirect
  have hle := Points.losses_le_zero ((charges input).map Term.points)
  simp only [worstPenalty] at hdirect hindirect
  rw [← (totals_charges input).1]
  constructor
  · rw [charges, List.map_append, Points.losses_append]
    omega
  · exact hle

private theorem totals_terms (input : ScoreInput) :
    losses ((terms input).map Term.points) = min (basePoints input.freshness).val 0 +
        min (tierPoints input.allDependencies).val 0 + chargeSum input ∧
      gains ((terms input).map Term.points) = max (basePoints input.freshness).val 0 +
        max (tierPoints input.allDependencies).val 0 := by
  obtain ⟨htierLosses, htierGains⟩ := totals_tierTerm input.allDependencies
  obtain ⟨hlosses, hgains⟩ := totals_charges input
  rw [terms_eq_charges, List.map_cons, List.map_append, Points.losses_cons, Points.losses_append,
    Points.gains_cons, Points.gains_append]
  dsimp only
  omega

private theorem mem_charges_iff {input : ScoreInput} {term : Term} :
    term ∈ charges input ↔ ∃ scope severity, (input.vulnerabilities scope).get severity ≠ 0 ∧
      Penalty.points? scope severity = some term.points ∧
      term.label = Penalty.label scope severity := by
  rw [charges, List.mem_append, mem_penalties_iff, mem_penalties_iff]
  constructor
  · rintro (hdirect | hindirect)
    · exact ⟨.direct, hdirect⟩
    · exact ⟨.indirect, hindirect⟩
  · rintro ⟨_ | _, hscope⟩
    · exact .inl hscope
    · exact .inr hscope

/-- The penalties add up to nothing exactly when there is none. -/
theorem chargeSum_eq_zero_iff (input : ScoreInput) : chargeSum input = 0 ↔ ¬input.IsPenalised := by
  rw [← (totals_charges input).1, Points.losses_eq_zero_iff, List.forall_mem_map]
  constructor
  · rintro hnone ⟨scope, severity, hcosts, hsome⟩
    obtain ⟨points, hpoints⟩ := Penalty.exists_points? hcosts scope
    have hcharge : ⟨Penalty.label scope severity, points⟩ ∈ charges input :=
      mem_charges_iff.mpr ⟨scope, severity, hsome, hpoints, rfl⟩
    have hnonneg : 0 ≤ points.val := hnone _ hcharge
    have hneg := Penalty.val_lt_zero hpoints
    omega
  · intro hspared term hterm
    obtain ⟨scope, severity, hsome, hpoints, -⟩ := mem_charges_iff.mp hterm
    exact absurd ⟨scope, severity, Penalty.mem_severities_of_points? hpoints, hsome⟩ hspared

/-! ### The total -/

/-- The total is clamped after the tier, and again after the penalties. -/
theorem val_sum_terms_eq (input : ScoreInput) :
    (sum (terms input)).val =
      max least (max least (min ((basePoints input.freshness).val +
        (tierPoints input.allDependencies).val) greatest) + chargeSum input) := by
  obtain ⟨hlosses, hgains⟩ := totals_charges input
  have hge := (basePoints input.freshness).ge
  have hlt := (basePoints input.freshness).lt
  have hfold : sum (terms input) = ((charges input).map Term.points).foldl (· + ·)
      (0 + basePoints input.freshness + tierPoints input.allDependencies) := by
    rw [sum, terms_eq_charges, List.foldl_cons, List.foldl_append, foldl_tierTerm, List.foldl_map]
  rw [hfold, Points.val_foldl_add_of_gains_eq_zero hgains, hlosses, Points.val_add, Points.val_add,
    Points.val_zero]
  simp only [least, greatest]
  omega

private theorem exactTotal_eq (input : ScoreInput) :
    exactTotal input = (basePoints input.freshness).val +
      (tierPoints input.allDependencies).val + chargeSum input := by
  obtain ⟨hlosses, hgains⟩ := totals_terms input
  rw [exactTotal, sum_val_eq]
  omega

/-- Every order of the terms gives the same total exactly when neither the freshness and the tier
lead beyond the greatest points with a penalty to follow, nor the freshness and the penalties beyond
the least points with a tier to lead back. -/
theorem neverTurnsBack_terms_iff (input : ScoreInput) :
    NeverTurnsBack ((terms input).map Term.points) ↔
      ((basePoints input.freshness).val + (tierPoints input.allDependencies).val ≤ greatest ∨
        ¬input.IsPenalised) ∧
      (least ≤ (basePoints input.freshness).val + chargeSum input ∨
        (tierPoints input.allDependencies).val ≤ 0) := by
  obtain ⟨hlosses, hgains⟩ := totals_terms input
  have hcharges := bounds_chargeSum input
  have htier := val_tierPoints input.allDependencies
  have hge := (basePoints input.freshness).ge
  have hlt := (basePoints input.freshness).lt
  rw [← chargeSum_eq_zero_iff, NeverTurnsBack, hlosses, hgains]
  simp only [least, greatest]
  split_ifs at htier <;> omega

/-- The total is the exact sum of all terms, clamped once, if and only if the freshness and the tier
do not lead beyond the greatest points or no penalty follows. Every order of the terms gives the
same total if and only if, besides, the freshness and the penalties do not lead beyond the least
points or the tier adds nothing. -/
theorem total_eq_clamp_iff (input : ScoreInput) (wantsBreakdown : Bool) :
    ((compute input wantsBreakdown).total = .clamp (exactTotal input) ↔
      (basePoints input.freshness).val + (tierPoints input.allDependencies).val ≤ greatest ∨
        ¬input.IsPenalised) ∧
    ((∀ order, order.Perm (terms input) → sum order = (compute input wantsBreakdown).total) ↔
      ((basePoints input.freshness).val + (tierPoints input.allDependencies).val ≤ greatest ∨
        ¬input.IsPenalised) ∧
      (least ≤ (basePoints input.freshness).val + chargeSum input ∨
        (tierPoints input.allDependencies).val ≤ 0)) := by
  have htotal : (compute input wantsBreakdown).total = sum (terms input) := rfl
  rw [htotal]
  constructor
  · have hcharges := bounds_chargeSum input
    have htier := val_tierPoints input.allDependencies
    have hge := (basePoints input.freshness).ge
    rw [← chargeSum_eq_zero_iff, Points.ext_iff, val_sum_terms_eq, Points.val_clamp, exactTotal_eq]
    simp only [least, greatest]
    split_ifs at htier <;> omega
  · rw [← neverTurnsBack_terms_iff, ← Points.forall_perm_iff]
    simp only [sum_eq_foldl]

/-- A freshness of so many points that no more can be gained. -/
private def overflowing : ScoreInput :=
  ⟨.ofNat (10 ^ 17), 0, ⟨1, 0, 0, 0⟩, 0, by decide +kernel⟩

/-- The tier adds 20 points that are lost at the bound, and the penalty takes 20 points from it. -/
theorem not_total_eq_clamp_overflowing :
    (compute overflowing true).total ≠ .clamp (exactTotal overflowing) ∧
      ∃ order, order.Perm (terms overflowing) ∧ sum order ≠ (compute overflowing true).total :=
  ⟨by decide +kernel, (terms overflowing).reverse, List.reverse_perm _, by decide +kernel⟩

end Score

end PackageRisk
