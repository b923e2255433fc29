import PackageRisk.Proofs.Score.Addends

/-!
# Scores and risk

More risk never scores better. A package carries at least the risk of another one if its freshness
is worth no more points, it has no fewer dependencies, and it has a vulnerability wherever the other
one has one that costs points. Then no place of its score adds more, and sums that stop at the
bounds keep the order.
-/

namespace PackageRisk

/-- Sums are ordered as what is added, also where they reach the bounds. -/
theorem Points.foldl_add_le {xs ys : List Points} (h : List.Forall₂ (·.val ≤ ·.val) xs ys)
    {a b : Points} (hstart : a.val ≤ b.val) :
    (xs.foldl (· + ·) a).val ≤ (ys.foldl (· + ·) b).val := by
  induction h generalizing a b with
  | nil => exact hstart
  | cons hfirst _ ih =>
    apply ih
    simp only [Points.val_add]
    omega

/-- The place of a grade is the number of thresholds that the score misses. -/
theorem Grade.rank_ofScore (score : Points) :
    (ofScore score).rank =
      if 80 ≤ score.val then 0 else if 60 ≤ score.val then 1 else if 40 ≤ score.val then 2
      else if 20 ≤ score.val then 3 else 4 := by
  unfold ofScore
  split_ifs <;> rfl

/-- Fewer points never make a better grade. -/
theorem Grade.rank_ofScore_le {a b : Points} (h : a.val ≤ b.val) :
    (ofScore b).rank ≤ (ofScore a).rank := by
  rw [rank_ofScore, rank_ofScore]
  split_ifs <;> omega

namespace ScoreInput

/-- The first input carries at least the risk of the other. -/
structure AtLeastAsRisky (input other : ScoreInput) : Prop where
  base : (Score.basePoints input.freshness).val ≤ (Score.basePoints other.freshness).val
  dependencies : other.allDependencies ≤ input.allDependencies
  vulnerable (scope : Scope) (severity : Severity) (hcosts : severity ∈ Penalty.severities)
    (h : (other.vulnerabilities scope).get severity ≠ 0) :
    (input.vulnerabilities scope).get severity ≠ 0

/-- Two inputs carry the same risk. How many vulnerabilities of a severity there are is not
compared, nor are the low ones. -/
structure SameRisk (input other : ScoreInput) : Prop where
  base : Score.basePoints input.freshness = Score.basePoints other.freshness
  tier : DependencyTier.ofCount? input.allDependencies =
    DependencyTier.ofCount? other.allDependencies
  vulnerable (scope : Scope) (severity : Severity) (hcosts : severity ∈ Penalty.severities) :
    (input.vulnerabilities scope).get severity ≠ 0 ↔
      (other.vulnerabilities scope).get severity ≠ 0

end ScoreInput

namespace Score

/-- More dependencies never add more points. -/
theorem tierPoints_le {count other : Count} (h : other ≤ count) :
    (tierPoints count).val ≤ (tierPoints other).val := by
  have hle : other.val ≤ count.val := h
  rw [val_tierPoints, val_tierPoints]
  split_ifs <;> omega

/-- No vulnerability adds points. -/
theorem penaltyPoints_le_zero (scope : Scope) (counts : VulnerabilityCounts)
    (severity : Severity) : (penaltyPoints scope counts severity).val ≤ 0 := by
  unfold penaltyPoints
  split_ifs
  · exact Int.le_refl 0
  · cases scope <;> cases severity <;> decide

/-- What a severity adds depends on whether there are vulnerabilities of it. -/
theorem penaltyPoints_congr {scope : Scope} {counts other : VulnerabilityCounts}
    {severity : Severity} (h : counts.get severity ≠ 0 ↔ other.get severity ≠ 0) :
    penaltyPoints scope counts severity = penaltyPoints scope other severity := by
  unfold penaltyPoints
  rw [if_congr (not_iff_not.mp h) rfl rfl]

/-- A severity adds no more where there are vulnerabilities of it than anywhere. -/
theorem penaltyPoints_le {scope : Scope} {counts other : VulnerabilityCounts}
    {severity : Severity} (h : other.get severity ≠ 0 → counts.get severity ≠ 0) :
    (penaltyPoints scope counts severity).val ≤ (penaltyPoints scope other severity).val := by
  by_cases hother : other.get severity = 0
  · have hzero : penaltyPoints scope other severity = 0 := if_pos hother
    rw [hzero]
    exact penaltyPoints_le_zero scope counts severity
  · have hsame : penaltyPoints scope counts severity = penaltyPoints scope other severity :=
      penaltyPoints_congr ⟨fun _ ↦ hother, h⟩
    exact Int.le_of_eq (congrArg Points.val hsame)

private theorem penaltyAddends_le {scope : Scope} {counts other : VulnerabilityCounts}
    (h : ∀ severity ∈ Penalty.severities, other.get severity ≠ 0 → counts.get severity ≠ 0) :
    List.Forall₂ (·.val ≤ ·.val) (penaltyAddends scope counts) (penaltyAddends scope other) := by
  unfold penaltyAddends
  rw [List.forall₂_map_left_iff, List.forall₂_map_right_iff, List.forall₂_same]
  exact fun severity hcosts ↦ penaltyPoints_le (h severity hcosts)

variable {input other : ScoreInput}

/-- No place of the score adds more where there is more risk. -/
theorem addends_le (h : input.AtLeastAsRisky other) :
    List.Forall₂ (·.val ≤ ·.val) (addends input) (addends other) :=
  .cons h.base <| .cons (tierPoints_le h.dependencies) <|
    List.rel_append (penaltyAddends_le (h.vulnerable .direct))
      (penaltyAddends_le (h.vulnerable .indirect))

/-- Every place of the score adds the same where the risk is the same. -/
theorem addends_congr (h : input.SameRisk other) : addends input = addends other := by
  have hpenalties (scope : Scope) : penaltyAddends scope (input.vulnerabilities scope) =
      penaltyAddends scope (other.vulnerabilities scope) :=
    List.map_congr_left fun severity hcosts ↦
      penaltyPoints_congr (h.vulnerable scope severity hcosts)
  have htier : tierPoints input.allDependencies = tierPoints other.allDependencies := by
    unfold tierPoints
    rw [h.tier]
  have hdirect := hpenalties .direct
  have hindirect := hpenalties .indirect
  simp only [ScoreInput.vulnerabilities] at hdirect hindirect
  rw [addends, addends, h.base, htier, hdirect, hindirect]

/-- With at least the risk of another input, the total is no greater and the grade no better, also
where the totals reach the bounds. With the same risk, the total and the grade are the same. -/
theorem compute_antitone (input other : ScoreInput) (wantsBreakdown wantsOther : Bool) :
    (input.AtLeastAsRisky other →
      (compute input wantsBreakdown).total.val ≤ (compute other wantsOther).total.val ∧
      (compute other wantsOther).grade.rank ≤ (compute input wantsBreakdown).grade.rank) ∧
    (input.SameRisk other →
      (compute input wantsBreakdown).total = (compute other wantsOther).total ∧
      (compute input wantsBreakdown).grade = (compute other wantsOther).grade) := by
  constructor
  · intro hrisk
    have htotal : (sum (terms input)).val ≤ (sum (terms other)).val := by
      rw [sum_terms, sum_terms]
      exact Points.foldl_add_le (addends_le hrisk) (Int.le_refl _)
    exact ⟨htotal, Grade.rank_ofScore_le htotal⟩
  · intro hrisk
    have htotal : sum (terms input) = sum (terms other) := by
      rw [sum_terms, sum_terms, addends_congr hrisk]
    exact ⟨htotal, congrArg Grade.ofScore htotal⟩

/-- A freshness so far below zero that its points are the least. -/
private def stale (allDependencies : Nat) (direct indirect : VulnerabilityCounts) : ScoreInput :=
  ⟨⟨true, Binary64.infinityCode - 1, by decide⟩, .clamp allDependencies, direct, indirect,
    by decide⟩

private def riskier : ScoreInput := stale 500 ⟨0, 0, .clamp 1, 0⟩ ⟨.clamp Count.max, 0, 0, 0⟩

private def lessRisky : ScoreInput := stale 99 ⟨0, 0, .clamp 7, .clamp 2⟩ 0

/-- The risk of the less risky input, with other counts in the same places. -/
private def asRisky : ScoreInput := stale 21 ⟨0, 0, .clamp Count.max, 0⟩ ⟨0, 0, 0, .clamp 3⟩

/-- A total at the lower limit beside two inputs of one risk. -/
theorem compute_antitone_stale :
    riskier.AtLeastAsRisky lessRisky ∧ lessRisky.SameRisk asRisky ∧
      (compute riskier true).total.val ≤ (compute lessRisky false).total.val ∧
      (compute lessRisky false).grade.rank ≤ (compute riskier true).grade.rank ∧
      (compute lessRisky true).total = (compute asRisky true).total ∧
      (compute lessRisky true).grade = (compute asRisky true).grade ∧
      (compute riskier true).total.val = Points.least := by
  have hrisk : riskier.AtLeastAsRisky lessRisky := by
    refine ⟨by decide +kernel, by decide +kernel, fun scope severity hcosts ↦ ?_⟩
    cases scope <;> cases severity <;> revert hcosts <;> decide
  have hsame : lessRisky.SameRisk asRisky := by
    refine ⟨by decide +kernel, by decide +kernel, fun scope severity hcosts ↦ ?_⟩
    cases scope <;> cases severity <;> revert hcosts <;> decide
  obtain ⟨htotal, hgrade⟩ := (compute_antitone riskier lessRisky true false).1 hrisk
  obtain ⟨htotals, hgrades⟩ := (compute_antitone lessRisky asRisky true true).2 hsame
  exact ⟨hrisk, hsame, htotal, hgrade, htotals, hgrades, by decide +kernel⟩

end Score

end PackageRisk
