import Mathlib.Tactic.SplitIfs
import PackageRisk.Score

/-!
# Explanations of scores

An explanation lists the terms of a score and the total. Each penalty has a label of its own, so an
entry with this label tells that there are vulnerabilities of its severity in its scope.
-/

namespace PackageRisk

namespace Penalty

/-- The label tells the scope and the severity of a penalty. -/
theorem label_inj {scope other : Scope} {severity another : Severity} :
    label scope severity = label other another ↔ scope = other ∧ severity = another := by
  cases scope <;> cases other <;> cases severity <;> cases another <;> decide

private theorem label_ne_freshnessLabel (scope : Scope) (severity : Severity) :
    Score.freshnessLabel ≠ label scope severity := by
  cases scope <;> cases severity <;> decide

private theorem label_ne_totalLabel (scope : Scope) (severity : Severity) :
    Score.totalLabel ≠ label scope severity := by
  cases scope <;> cases severity <;> decide

private theorem label_ne_tierLabel (tier : DependencyTier) (scope : Scope) (severity : Severity) :
    tier.label ≠ label scope severity := by
  cases tier <;> cases scope <;> cases severity <;> decide

/-- What costs points is among the severities that do. -/
theorem mem_severities_of_points? {scope : Scope} {severity : Severity} {points : Points}
    (h : points? scope severity = some points) : severity ∈ severities := by
  cases severity with
  | low => cases scope <;> cases h
  | _ => decide

/-- The severities that cost points do so in both scopes. -/
theorem exists_points? {severity : Severity} (h : severity ∈ severities) (scope : Scope) :
    ∃ points, points? scope severity = some points := by
  cases severity with
  | low => exact absurd h (by decide)
  | _ => cases scope <;> exact ⟨_, rfl⟩

end Penalty

namespace Score

/-- The penalties of a scope are for the severities with a vulnerability that cost points. -/
theorem mem_penalties_iff {scope : Scope} {counts : VulnerabilityCounts} {term : Term} :
    term ∈ penalties scope counts ↔ ∃ severity, counts.get severity ≠ 0 ∧
      Penalty.points? scope severity = some term.points ∧
      term.label = Penalty.label scope severity := by
  rw [penalties, List.mem_filterMap]
  constructor
  · rintro ⟨severity, -, h⟩
    split_ifs at h with hzero
    obtain ⟨points, hpoints, rfl⟩ := Option.map_eq_some_iff.mp h
    exact ⟨severity, hzero, hpoints, rfl⟩
  · rintro ⟨severity, hsome, hpoints, hlabel⟩
    refine ⟨severity, Penalty.mem_severities_of_points? hpoints, ?_⟩
    rw [if_neg hsome, hpoints, Option.map_some, ← hlabel]

/-- An entry of the explanation with the label of a penalty tells of vulnerabilities in its scope,
and adds the points of the penalty. -/
theorem mem_explanation_iff {input : ScoreInput} {scope : Scope} {severity : Severity}
    {entry : Term} (hlabel : entry.label = Penalty.label scope severity) :
    entry ∈ terms input ++ [⟨totalLabel, sum (terms input)⟩] ↔
      (input.vulnerabilities scope).get severity ≠ 0 ∧
        Penalty.points? scope severity = some entry.points := by
  have hfreshness : entry ≠ ⟨freshnessLabel, basePoints input.freshness⟩ := by
    rintro rfl
    exact Penalty.label_ne_freshnessLabel scope severity hlabel
  have htier : entry ∉ tierTerm input.allDependencies := by
    intro hmem
    obtain ⟨tier, -, rfl⟩ := List.mem_map.mp hmem
    exact Penalty.label_ne_tierLabel tier scope severity hlabel
  have htotal : entry ≠ ⟨totalLabel, sum (terms input)⟩ := by
    rintro rfl
    exact Penalty.label_ne_totalLabel scope severity hlabel
  have hpenalties (other : Scope) (counts : VulnerabilityCounts) :
      entry ∈ penalties other counts ↔ other = scope ∧ counts.get severity ≠ 0 ∧
        Penalty.points? scope severity = some entry.points := by
    rw [mem_penalties_iff]
    constructor
    · rintro ⟨another, hsome, hpoints, hother⟩
      obtain ⟨rfl, rfl⟩ := Penalty.label_inj.mp (hlabel.symm.trans hother)
      exact ⟨rfl, hsome, hpoints⟩
    · rintro ⟨rfl, hsome, hpoints⟩
      exact ⟨severity, hsome, hpoints, hlabel⟩
  rw [List.mem_append, List.mem_singleton, or_iff_left htotal, terms, List.mem_cons,
    or_iff_right hfreshness, List.mem_append, List.mem_append, or_iff_right htier, hpenalties,
    hpenalties]
  cases scope <;> simp [ScoreInput.vulnerabilities]

/-- All labels of terms. -/
def labels : List String :=
  freshnessLabel :: ([DependencyTier.tiny, .small, .huge, .large].map DependencyTier.label ++
    Severity.all.map (Penalty.label .direct) ++ Severity.all.map (Penalty.label .indirect))

/-- The label of each term is one of the labels. -/
theorem label_mem_labels {input : ScoreInput} {entry : Term} (h : entry ∈ terms input) :
    entry.label ∈ labels := by
  have hpenalty (scope : Scope) (severity : Severity) : Penalty.label scope severity ∈ labels := by
    cases scope <;> cases severity <;> decide
  have hpenalties {scope : Scope} {counts : VulnerabilityCounts}
      (hmem : entry ∈ penalties scope counts) : entry.label ∈ labels := by
    obtain ⟨severity, -, -, hlabel⟩ := mem_penalties_iff.mp hmem
    rw [hlabel]
    exact hpenalty scope severity
  rw [terms, List.mem_cons, List.mem_append, List.mem_append] at h
  rcases h with rfl | (htier | hdirect) | hindirect
  · exact List.mem_cons_self
  · obtain ⟨tier, -, rfl⟩ := List.mem_map.mp htier
    cases tier <;> decide
  · exact hpenalties hdirect
  · exact hpenalties hindirect

end Score

end PackageRisk
