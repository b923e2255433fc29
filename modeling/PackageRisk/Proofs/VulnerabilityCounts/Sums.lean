import PackageRisk.Proofs.Number.Clamping
import PackageRisk.Proofs.Number.ClampedSum
import PackageRisk.VulnerabilityCounts

/-!
# Sums of vulnerability counts

Counts are added severity by severity, so they form a commutative monoid as single counts do.
Collecting entries is summing: each entry stands for the counts that hold nothing else. The count of
a severity and the total of all respect sums. All of this holds up to the greatest count, wherever
it is reached on the way.
-/

namespace PackageRisk.VulnerabilityCounts

/-- Counts are added in any order and grouping. -/
instance : AddCommMonoid VulnerabilityCounts where
  add_assoc a b c := ext_get fun severity ↦ by simp only [get_add, add_assoc]
  zero_add a := ext_get fun severity ↦ by rw [get_add, get_zero, zero_add]
  add_zero a := ext_get fun severity ↦ by rw [get_add, get_zero, add_zero]
  add_comm a b := ext_get fun severity ↦ by rw [get_add, get_add, add_comm]
  nsmul := nsmulRec

/-! ### What respects sums -/

/-- The count of a severity respects sums. -/
def getHom (severity : Severity) : VulnerabilityCounts →+ Count where
  toFun counts := counts.get severity
  map_zero' := get_zero severity
  map_add' a b := get_add a b severity

private theorem total_eq_sum (counts : VulnerabilityCounts) :
    counts.total = (Severity.all.map counts.get).sum := by
  rw [total, List.sum_eq_foldl, List.foldl_map]

/-- The total of a sum is the sum of the totals. -/
theorem total_add (a b : VulnerabilityCounts) : (a + b).total = a.total + b.total := by
  have hget : (a + b).get = fun severity ↦ a.get severity + b.get severity :=
    funext (get_add a b)
  simp only [total_eq_sum, hget]
  exact List.sum_map_add

/-- The total respects sums. -/
def totalHom : VulnerabilityCounts →+ Count where
  toFun := total
  map_zero' := by decide
  map_add' := total_add

/-- Adding loses nothing, so a sum is empty only if both sides are. -/
theorem isEmpty_add_iff {a b : VulnerabilityCounts} :
    (a + b).isEmpty = true ↔ a.isEmpty = true ∧ b.isEmpty = true := by
  simp only [isEmpty, decide_eq_true_iff, total_add, Count.add_eq_zero_iff]

/-! ### Collected entries -/

/-- The counts with one entry. -/
def only (entry : Severity × Count) : VulnerabilityCounts := set 0 entry.1 entry.2

/-- Recording an entry is adding the counts that hold nothing else. -/
theorem record_eq_add_only (counts : VulnerabilityCounts) (entry : Severity × Count) :
    counts.record entry.1 entry.2 = counts + only entry := by
  apply ext_get
  intro severity
  rw [get_record, get_add, only, get_set, get_zero]
  split
  · rfl
  · rw [add_zero]

/-- Collecting is summing. -/
theorem collect_eq_sum (entries : List (Severity × Count)) :
    collect entries = (entries.map only).sum := by
  simp only [collect, record_eq_add_only]
  rw [List.sum_eq_foldl, List.foldl_map]

/-- What respects sums is summed up over collected entries. -/
theorem map_collect (f : VulnerabilityCounts →+ Count) (entries : List (Severity × Count)) :
    f (collect entries) = (entries.map fun entry ↦ f (only entry)).sum := by
  rw [collect_eq_sum, map_list_sum, List.map_map]
  rfl

/-- A severity of collected entries has the sum of its own entries. -/
theorem get_collect (entries : List (Severity × Count)) (severity : Severity) :
    (collect entries).get severity = ((entries.filter (·.1 = severity)).map (·.2)).sum := by
  have hsum : (collect entries).get severity =
      (entries.map fun entry ↦ (only entry).get severity).sum :=
    map_collect (getHom severity) entries
  rw [hsum]
  clear hsum
  induction entries with
  | nil => rfl
  | cons entry rest ih =>
    rw [List.map_cons, List.sum_cons, ih, only, get_set, get_zero, List.filter_cons]
    by_cases hentry : entry.1 = severity
    · rw [if_pos hentry.symm, if_pos (decide_eq_true hentry), List.map_cons, List.sum_cons]
    · rw [if_neg (Ne.symm hentry), if_neg (by simpa using hentry), zero_add]

private theorem total_only (entry : Severity × Count) : (only entry).total = entry.2 := by
  obtain ⟨severity, count⟩ := entry
  simp only [total_eq_sum, only, Severity.all]
  cases severity <;> simp

/-- The total of collected entries is the sum of all. -/
theorem total_collect (entries : List (Severity × Count)) :
    (collect entries).total = (entries.map (·.2)).sum := by
  have hsum : (collect entries).total = (entries.map fun entry ↦ (only entry).total).sum :=
    map_collect totalHom entries
  simpa only [total_only] using hsum

/-- Counts form a commutative monoid, up to the greatest count. The total of a sum is the sum of the
totals, and a sum is empty only if both sides are. Collecting entries does not depend on their order
and respects putting lists together; each severity then has the sum of its own entries, and the
total is the sum of all. -/
theorem sums_exact (a b c : VulnerabilityCounts) (entries others : List (Severity × Count)) :
    a + b = b + a ∧ a + b + c = a + (b + c) ∧ a + 0 = a ∧
    (a + b).total.val = min (a.total.val + b.total.val) Count.max ∧
    ((a + b).isEmpty = true ↔ a.isEmpty = true ∧ b.isEmpty = true) ∧
    (entries.Perm others → collect entries = collect others) ∧
    collect (entries ++ others) = collect entries + collect others ∧
    (∀ severity, ((collect entries).get severity).val =
      min ((entries.filter (·.1 = severity)).map (·.2.val)).sum Count.max) ∧
    (collect entries).total.val = min (entries.map (·.2.val)).sum Count.max := by
  refine ⟨add_comm a b, add_assoc a b c, add_zero a, ?_, isEmpty_add_iff, fun hperm ↦ ?_, ?_,
    fun severity ↦ ?_, ?_⟩
  · rw [total_add, Count.val_add]
  · rw [collect_eq_sum, collect_eq_sum]
    exact (hperm.map only).sum_eq
  · rw [collect_eq_sum, List.map_append, List.sum_append, ← collect_eq_sum, ← collect_eq_sum]
  · rw [get_collect, Count.val_sum, List.map_map]
    rfl
  · rw [total_collect, Count.val_sum, List.map_map]
    rfl

/-- Two entries that pass the greatest count together, and one of another severity. -/
private def mixedEntries : List (Severity × Count) :=
  [(.medium, .clamp (Count.max - 1)), (.low, .clamp 4), (.medium, .clamp 2)]

/-- The medium count stops at the greatest count in either order, and so does the total. -/
theorem sums_exact_saturated :
    mixedEntries.Perm mixedEntries.reverse ∧
    collect mixedEntries = collect mixedEntries.reverse ∧
    ((collect mixedEntries).get .medium).val = Count.max ∧
    ((collect mixedEntries).get .low).val = 4 ∧ (collect mixedEntries).total.val = Count.max := by
  have hperm : mixedEntries.Perm mixedEntries.reverse := (List.reverse_perm mixedEntries).symm
  obtain ⟨-, -, -, -, -, hcollect, -, hget, htotal⟩ :=
    sums_exact 0 0 0 mixedEntries mixedEntries.reverse
  exact ⟨hperm, hcollect hperm, hget .medium, hget .low, htotal⟩

end PackageRisk.VulnerabilityCounts
