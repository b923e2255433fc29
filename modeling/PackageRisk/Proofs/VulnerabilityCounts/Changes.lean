import Mathlib.Algebra.Ring.Nat
import Mathlib.Data.List.Induction
import PackageRisk.VulnerabilityCounts

/-!
# Counts after many changes

Counts are changed by setting or recording one severity and by adding other counts on either side. A
change that sets a severity makes all changes before it irrelevant for this severity; every other
change adds to it. What a severity has in the end is the value that it was set to last and the exact
sum of what came after, clamped once, however often the greatest count was reached on the way.
-/

namespace PackageRisk.VulnerabilityCounts

/-- A change of counts. -/
inductive Change
  | set (severity : Severity) (count : Count)
  | record (severity : Severity) (count : Count)
  /-- Other counts are added to the counts. -/
  | add (more : VulnerabilityCounts)
  /-- The counts are added to other counts. -/
  | addTo (more : VulnerabilityCounts)
  deriving DecidableEq, Repr

namespace Change

/-- The counts after a change. -/
def apply (counts : VulnerabilityCounts) : Change → VulnerabilityCounts
  | set severity count => counts.set severity count
  | record severity count => counts.record severity count
  | add more => counts + more
  | addTo more => more + counts

/-- The severity that a change is addressed to; sums are addressed to none in particular. -/
def addressee? : Change → Option Severity
  | set severity _ => some severity
  | record severity _ => some severity
  | add _ => none
  | addTo _ => none

/-- The value that a change gives a severity whatever it had before. -/
def setTo? (severity : Severity) : Change → Option Count
  | set target count => if target = severity then some count else none
  | _ => none

/-- What a change adds to a severity. -/
def gain (severity : Severity) : Change → Nat
  | set _ _ => 0
  | record target count => if target = severity then count.val else 0
  | add more => (more.get severity).val
  | addTo more => (more.get severity).val

variable {change : Change} {severity : Severity}

/-- A severity that is set has the value that it is set to. -/
theorem get_apply_of_setTo? {count : Count} (h : change.setTo? severity = some count)
    (counts : VulnerabilityCounts) : (change.apply counts).get severity = count := by
  cases change with
  | set target value =>
    rw [setTo?] at h
    split at h
    · next htarget =>
      cases h
      rw [apply, get_set, if_pos htarget.symm]
    · cases h
  | record => cases h
  | add => cases h
  | addTo => cases h

/-- A severity that is not set has what it had and what the change adds to it. -/
theorem val_get_apply (h : change.setTo? severity = none) (counts : VulnerabilityCounts) :
    ((change.apply counts).get severity).val =
      min ((counts.get severity).val + change.gain severity) Count.max := by
  have hcount := (counts.get severity).val_le_max
  cases change with
  | set target value =>
    rw [setTo?] at h
    split at h
    · cases h
    · next htarget =>
      rw [apply, get_set, if_neg (Ne.symm htarget), gain]
      omega
  | record target value =>
    rw [apply, get_record, gain]
    by_cases htarget : target = severity
    · rw [if_pos htarget.symm, if_pos htarget, Count.val_add]
    · rw [if_neg (Ne.symm htarget), if_neg htarget]
      omega
  | add more => rw [apply, get_add, Count.val_add, gain]
  | addTo more => rw [apply, get_add, Count.val_add, gain, Nat.add_comm]

/-- A change that is addressed to one severity leaves the others alone. -/
theorem get_apply_of_addressee? {target : Severity} (h : change.addressee? = some target)
    (hother : target ≠ severity) (counts : VulnerabilityCounts) :
    (change.apply counts).get severity = counts.get severity := by
  cases change with
  | set =>
    cases h
    rw [apply, get_set, if_neg (Ne.symm hother)]
  | record =>
    cases h
    rw [apply, get_record, if_neg (Ne.symm hother)]
  | add => cases h
  | addTo => cases h

/-- Only setting a severity can lower its count. -/
theorem le_get_apply (h : change.setTo? severity = none) (counts : VulnerabilityCounts) :
    counts.get severity ≤ (change.apply counts).get severity := by
  have hcount := (counts.get severity).val_le_max
  change (counts.get severity).val ≤ ((change.apply counts).get severity).val
  rw [val_get_apply h]
  omega

end Change

open Change

/-- The counts after changes that begin with no vulnerability. -/
def after (changes : List Change) : VulnerabilityCounts :=
  changes.foldl (fun counts change ↦ change.apply counts) 0

/-- The value that a severity was set to last; zero if it was never set. -/
def lastSet (severity : Severity) (changes : List Change) : Nat :=
  (changes.reverse.findSome? (setTo? severity)).elim 0 Count.val

/-- The changes since a severity was set last, the latest first; all if it was never set. -/
def sinceSet (severity : Severity) (changes : List Change) : List Change :=
  changes.reverse.takeWhile fun change ↦ (change.setTo? severity).isNone

variable {severity : Severity} {changes : List Change}

private theorem after_concat (changes : List Change) (last : Change) :
    after (changes ++ [last]) = last.apply (after changes) := by
  rw [after, List.foldl_append, List.foldl_cons, List.foldl_nil, ← after]

private theorem lastSet_concat_of_some {last : Change} {count : Count}
    (h : last.setTo? severity = some count) : lastSet severity (changes ++ [last]) = count.val := by
  simp [lastSet, h]

private theorem lastSet_concat_of_none {last : Change} (h : last.setTo? severity = none) :
    lastSet severity (changes ++ [last]) = lastSet severity changes := by
  simp [lastSet, h]

private theorem sinceSet_concat_of_some {last : Change} {count : Count}
    (h : last.setTo? severity = some count) : sinceSet severity (changes ++ [last]) = [] := by
  simp [sinceSet, h]

private theorem sinceSet_concat_of_none {last : Change} (h : last.setTo? severity = none) :
    sinceSet severity (changes ++ [last]) = last :: sinceSet severity changes := by
  simp [sinceSet, h]

/-- After changes, a severity has the value that it was set to last and the sum of what it gained
since then. -/
theorem val_get_after (changes : List Change) (severity : Severity) :
    ((after changes).get severity).val =
      min (lastSet severity changes + ((sinceSet severity changes).map (gain severity)).sum)
        Count.max := by
  induction changes using List.reverseRecOn with
  | nil => simp [after, lastSet, sinceSet]
  | append_singleton before last ih =>
    rw [after_concat]
    cases hlast : last.setTo? severity with
    | some count =>
      have hcount := count.val_le_max
      rw [get_apply_of_setTo? hlast, lastSet_concat_of_some hlast, sinceSet_concat_of_some hlast,
        List.map_nil, List.sum_nil]
      omega
    | none =>
      rw [val_get_apply hlast, ih, lastSet_concat_of_none hlast, sinceSet_concat_of_none hlast,
        List.map_cons, List.sum_cons]
      omega

/-- However changes follow each other, a severity has the value that it was set to last, or zero,
and the exact sum of what was recorded or added for it since then, up to the greatest count. A
change that is addressed to one severity never changes another, and none lowers a count but one that
sets it. -/
theorem tally_after (changes : List Change) (severity : Severity) :
    ((after changes).get severity).val =
      min (lastSet severity changes + ((sinceSet severity changes).map (gain severity)).sum)
        Count.max ∧
    ∀ (change : Change) (counts : VulnerabilityCounts),
      (∀ target, change.addressee? = some target → target ≠ severity →
        (change.apply counts).get severity = counts.get severity) ∧
      (change.setTo? severity = none →
        counts.get severity ≤ (change.apply counts).get severity) := by
  refine ⟨val_get_after changes severity, fun change counts ↦ ⟨fun target htarget hother ↦ ?_,
    fun hset ↦ ?_⟩⟩
  · exact get_apply_of_addressee? htarget hother counts
  · exact le_get_apply hset counts

/-- Something is recorded for a severity before it is set, and after that more than fits is added to
it; between the two another severity is recorded. -/
private def crowdedChanges : List Change :=
  [.record .low (.clamp 3), .set .low (.clamp (Count.max - 1)), .record .high 1,
    .addTo ⟨0, 0, 0, .clamp 2⟩]

/-- The low count was set and then passed the greatest count. Recording another severity leaves it
alone, and adding to it again does not lower it. -/
theorem tally_after_crowded :
    ((after crowdedChanges).get .low).val = Count.max ∧
    (Change.record .high 1).addressee? = some .high ∧ Severity.high ≠ .low ∧
    ((Change.record .high 1).apply (after crowdedChanges)).get .low =
      (after crowdedChanges).get .low ∧
    (Change.add ⟨0, 0, 0, 1⟩).setTo? .low = none ∧
    (after crowdedChanges).get .low ≤
      ((Change.add ⟨0, 0, 0, 1⟩).apply (after crowdedChanges)).get .low := by
  obtain ⟨hvalue, hchanges⟩ := tally_after crowdedChanges .low
  refine ⟨hvalue, rfl, by decide, ?_, rfl, ?_⟩
  · exact (hchanges (.record .high 1) _).1 .high rfl (by decide)
  · exact (hchanges (.add ⟨0, 0, 0, 1⟩) _).2 rfl

end PackageRisk.VulnerabilityCounts
