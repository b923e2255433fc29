import PackageRisk.Number.Count
import PackageRisk.Severity

/-!
# Vulnerability counts

How many vulnerabilities of each severity a package has. A severity that nothing was recorded for
counts zero.
-/

namespace PackageRisk

/-- A count for each severity. -/
structure VulnerabilityCounts where
  critical : Count
  high : Count
  medium : Count
  low : Count
  deriving DecidableEq, Repr

namespace VulnerabilityCounts

/-- No vulnerability of any severity. -/
instance : Zero VulnerabilityCounts := ⟨⟨0, 0, 0, 0⟩⟩

/-- The count of a severity. -/
def get (counts : VulnerabilityCounts) : Severity → Count
  | .critical => counts.critical
  | .high => counts.high
  | .medium => counts.medium
  | .low => counts.low

/-- The counts with another count for one severity. -/
def set (counts : VulnerabilityCounts) (severity : Severity) (count : Count) :
    VulnerabilityCounts :=
  match severity with
  | .critical => { counts with critical := count }
  | .high => { counts with high := count }
  | .medium => { counts with medium := count }
  | .low => { counts with low := count }

/-- The counts with more vulnerabilities of one severity. -/
def record (counts : VulnerabilityCounts) (severity : Severity) (count : Count) :
    VulnerabilityCounts :=
  counts.set severity (counts.get severity + count)

/-- The sum for every severity. -/
instance : Add VulnerabilityCounts :=
  ⟨fun a b ↦ Severity.all.foldl (fun sum severity ↦ sum.record severity (b.get severity)) a⟩

/-- All vulnerabilities recorded one after the other. -/
def collect (entries : List (Severity × Count)) : VulnerabilityCounts :=
  entries.foldl (fun counts entry ↦ counts.record entry.1 entry.2) 0

/-- The number of vulnerabilities of all severities. -/
def total (counts : VulnerabilityCounts) : Count :=
  Severity.all.foldl (fun sum severity ↦ sum + counts.get severity) 0

/-- No vulnerability of any severity. -/
def isEmpty (counts : VulnerabilityCounts) : Bool := counts.total = 0

/-- The counts of zero are zero for each severity. -/
@[simp] theorem get_zero (severity : Severity) : (0 : VulnerabilityCounts).get severity = 0 := by
  cases severity <;> rfl

/-- Setting a count shows in this severity only. -/
@[simp] theorem get_set (counts : VulnerabilityCounts) (severity other : Severity)
    (count : Count) :
    (counts.set severity count).get other =
      if other = severity then count else counts.get other := by
  cases severity <;> cases other <;> rfl

/-- Recording adds to the count of this severity only. -/
@[simp] theorem get_record (counts : VulnerabilityCounts) (severity other : Severity)
    (count : Count) :
    (counts.record severity count).get other =
      if other = severity then counts.get other + count else counts.get other := by
  cases severity <;> cases other <;> rfl

/-- Counts are added severity by severity. -/
@[simp] theorem get_add (a b : VulnerabilityCounts) (severity : Severity) :
    (a + b).get severity = a.get severity + b.get severity := by
  cases severity <;> rfl

/-- Counts are equal when they agree on every severity. -/
theorem ext_get {a b : VulnerabilityCounts} (h : ∀ severity, a.get severity = b.get severity) :
    a = b := by
  have hc := h .critical
  have hh := h .high
  have hm := h .medium
  have hl := h .low
  cases a
  cases b
  simp_all [get]

end VulnerabilityCounts

end PackageRisk
