import Mathlib.Tactic.SplitIfs
import PackageRisk.Package

/-!
# Characters of names and versions

A name or a version without a fault is not empty and holds characters that are allowed in it only.
-/

namespace PackageRisk

/-- Accepted names are not empty. -/
theorem PackageName.ne_empty {text : String} (h : fault? text = none) : text ≠ "" := by
  rintro rfl
  cases h

/-- Accepted versions are not empty. -/
theorem PackageVersion.ne_empty {text : String} (h : fault? text = none) : text ≠ "" := by
  rintro rfl
  cases h

private theorem PackageName.allows_of_mem {text : String} (h : fault? text = none) {c : Char}
    (hc : c ∈ text.toList) : allows c = true := by
  unfold fault? at h
  dsimp only at h
  split_ifs at h with _ _ hall
  all_goals exact List.all_eq_true.mp (by simpa using hall) c hc

private theorem PackageVersion.allows_of_mem {text : String} (h : fault? text = none) {c : Char}
    (hc : c ∈ text.toList) : allows c = true := by
  unfold fault? at h
  dsimp only at h
  split_ifs at h with _ _ hall
  exact List.all_eq_true.mp (by simpa using hall) c hc

namespace Package

variable (package : Package) {c : Char}

/-- The characters of a package's name are allowed in names. -/
theorem allows_of_mem_name (hc : c ∈ package.name.toList) : PackageName.allows c = true :=
  PackageName.allows_of_mem package.name_faultless hc

/-- The characters of a package's version are allowed in versions. -/
theorem allows_of_mem_version (hc : c ∈ package.version.toList) : PackageVersion.allows c = true :=
  PackageVersion.allows_of_mem package.version_faultless hc

/-- A character that names do not allow is not in the name of a package. -/
theorem not_mem_name (h : PackageName.allows c = false) : c ∉ package.name.toList := by
  intro hc
  rw [package.allows_of_mem_name hc] at h
  cases h

/-- A character that versions do not allow is not in the version of a package. -/
theorem not_mem_version (h : PackageVersion.allows c = false) : c ∉ package.version.toList := by
  intro hc
  rw [package.allows_of_mem_version hc] at h
  cases h

end Package

end PackageRisk
