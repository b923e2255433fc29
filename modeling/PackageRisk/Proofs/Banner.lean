import Mathlib.Tactic.SplitIfs
import PackageRisk.Banner

/-!
# The gravest banner

Every vulnerability raises a banner by its severity, and the banner of counts is the gravest one
that is raised. So the banner of counts that show a severity wherever one of several parts shows it
is the gravest banner of the parts.
-/

namespace PackageRisk.Banner

/-- How grave a banner is; having none is the least. -/
def gravity : Option Banner → Nat
  | none => 0
  | some info => 1
  | some warn => 2
  | some fail => 3

/-- Banners that are equally grave are the same. -/
theorem eq_of_gravity_eq {banner other : Option Banner} (h : gravity banner = gravity other) :
    banner = other := by
  revert h
  rcases banner with _ | _ | _ <;> rcases other with _ | _ | _ <;> decide

/-- The gravest of several banners. -/
structure IsGravest (banners : List (Option Banner)) (banner : Option Banner) : Prop where
  mem : banner ∈ banners
  gravity_le : ∀ other ∈ banners, gravity other ≤ gravity banner

/-- The banner that a vulnerability raises. -/
def ofSeverity : Severity → Banner
  | .critical | .high => fail
  | .medium => warn
  | .low => info

variable {counts : VulnerabilityCounts}

/-- A banner is raised by a vulnerability. -/
theorem exists_of_ofCounts? {banner : Banner} (h : ofCounts? counts = some banner) :
    ∃ severity, counts.get severity ≠ 0 ∧ ofSeverity severity = banner := by
  unfold ofCounts? at h
  split_ifs at h with hfail hwarn hinfo
  · cases h
    rcases hfail with hcritical | hhigh
    · exact ⟨.critical, hcritical, rfl⟩
    · exact ⟨.high, hhigh, rfl⟩
  · cases h
    exact ⟨.medium, hwarn, rfl⟩
  · cases h
    exact ⟨.low, hinfo, rfl⟩

/-- No vulnerability raises a graver banner than that of the counts. -/
theorem gravity_ofSeverity_le {severity : Severity} (h : counts.get severity ≠ 0) :
    gravity (some (ofSeverity severity)) ≤ gravity (ofCounts? counts) := by
  unfold ofCounts?
  cases severity with
  | critical =>
    rw [if_pos (.inl h)]
    exact Nat.le_refl _
  | high =>
    rw [if_pos (.inr h)]
    exact Nat.le_refl _
  | medium =>
    rw [if_pos h]
    split_ifs <;> decide
  | low =>
    rw [if_pos h]
    split_ifs <;> decide

/-- A banner fails for a critical or a high vulnerability. -/
theorem ofCounts?_eq_some_fail_iff :
    ofCounts? counts = some fail ↔ counts.get .critical ≠ 0 ∨ counts.get .high ≠ 0 := by
  unfold ofCounts?
  split_ifs with hfail
  · exact iff_of_true rfl hfail
  all_goals exact iff_of_false (by decide) hfail

/-- A banner warns for a medium vulnerability unless there is one that makes it fail. -/
theorem ofCounts?_eq_some_warn_iff :
    ofCounts? counts = some warn ↔
      counts.get .medium ≠ 0 ∧ ¬(counts.get .critical ≠ 0 ∨ counts.get .high ≠ 0) := by
  unfold ofCounts?
  split_ifs with hfail hwarn
  · exact iff_of_false (by decide) fun h ↦ h.2 hfail
  · exact iff_of_true rfl ⟨hwarn, hfail⟩
  all_goals exact iff_of_false (by decide) fun h ↦ hwarn h.1

/-- There is no banner exactly if there is no vulnerability. -/
theorem ofCounts?_eq_none_iff :
    ofCounts? counts = none ↔ ∀ severity, counts.get severity = 0 := by
  constructor
  · intro hnone severity
    refine Decidable.byContradiction fun hsome ↦ ?_
    have hle := gravity_ofSeverity_le hsome
    rw [hnone] at hle
    cases severity <;> exact absurd hle (by decide)
  · intro hzero
    cases hbanner : ofCounts? counts with
    | none => rfl
    | some banner =>
      obtain ⟨severity, hsome, -⟩ := exists_of_ofCounts? hbanner
      exact absurd (hzero severity) hsome

/-- The banner of merged counts is the gravest of their parts. -/
theorem isGravest_of_merged {parts : List VulnerabilityCounts} (hparts : parts ≠ [])
    (hmerged : ∀ severity, counts.get severity ≠ 0 ↔ ∃ part ∈ parts, part.get severity ≠ 0) :
    IsGravest (parts.map ofCounts?) (ofCounts? counts) := by
  have hle : ∀ part ∈ parts, gravity (ofCounts? part) ≤ gravity (ofCounts? counts) := by
    intro part hpart
    cases hbanner : ofCounts? part with
    | none => exact Nat.zero_le _
    | some banner =>
      obtain ⟨severity, hshown, rfl⟩ := exists_of_ofCounts? hbanner
      exact gravity_ofSeverity_le ((hmerged severity).mpr ⟨part, hpart, hshown⟩)
  refine ⟨List.mem_map.mpr ?_, List.forall_mem_map.mpr hle⟩
  cases hbanner : ofCounts? counts with
  | none =>
    obtain ⟨part, hpart⟩ := List.exists_mem_of_ne_nil parts hparts
    have hzero := hle part hpart
    rw [hbanner] at hzero
    exact ⟨part, hpart, eq_of_gravity_eq (Nat.le_zero.mp hzero)⟩
  | some banner =>
    obtain ⟨severity, hshown, rfl⟩ := exists_of_ofCounts? hbanner
    obtain ⟨part, hpart, hpartShown⟩ := (hmerged severity).mp hshown
    have hge := hle part hpart
    rw [hbanner] at hge
    exact ⟨part, hpart, eq_of_gravity_eq (Nat.le_antisymm hge (gravity_ofSeverity_le hpartShown))⟩

end PackageRisk.Banner
