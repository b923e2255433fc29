import Mathlib.Data.List.Basic
import PackageRisk.Report.Resolution

/-!
# The sort of nested entries

The entries of a nested map are sorted by rank, of those for one severity the first is kept, and the
counts that are kept are set one after the other. What remains for a severity is a matter of the
entries for it alone: the first one other than null under its own name, or else the first one other
than null, or else null. The sort is stable, so "first" means first in the order in which the
entries came.
-/

namespace PackageRisk.RawReport

/-- The value that a nested map gives a severity, if it names it: that of an entry other than null,
under the severity's own name if there is one, and null if there are only entries with null. -/
def chosen? (entries : List NestedEntry) (severity : Severity) : Option (Option Int) :=
  let mine := entries.filter fun entry ↦ entry.severity = severity
  let best := mine.find? (fun entry ↦ entry.value.isSome && !entry.isAlias) <|>
    mine.find? (fun entry ↦ entry.value.isSome) <|> mine.head?
  best.map (·.value)

/-- Sets the count of a severity to what a nested map gives it, if it names it. -/
def override (package : Package) (scope : Scope) (entries : List NestedEntry)
    (counts : VulnerabilityCounts) (severity : Severity) : Except ReportFault VulnerabilityCounts :=
  match chosen? entries severity with
  | none => .ok counts
  | some value => do
    let count ← countOfInteger package (.vulnerabilities scope severity) (value.getD 0)
    .ok (counts.set severity count)

namespace NestedEntry

/-! ### The rank of an entry -/

/-- The place of an entry among the kinds of entries. -/
private def weight (entry : NestedEntry) : Nat :=
  4 * entry.severity.rank + 2 * entry.value.isNone.toNat + entry.isAlias.toNat

private theorem compare_bool (a b : Bool) : Ord.compare a b = Ord.compare a.toNat b.toNat := by
  cases a <;> cases b <;> rfl

private theorem le_iff_weight {a b : NestedEntry} : a.le b = true ↔ a.weight ≤ b.weight := by
  simp only [le, compare, compare_bool, Ordering.isLE_then_iff_or, Nat.compare_eq_lt,
    Nat.compare_eq_eq, Nat.isLE_compare, weight]
  have hnull := Bool.toNat_le a.value.isNone
  have hnull' := Bool.toNat_le b.value.isNone
  have hname := Bool.toNat_le a.isAlias
  have hname' := Bool.toNat_le b.isAlias
  omega

/-- Of three entries, the first may stand before the last if each may stand before the next. -/
theorem le_trans (a b c : NestedEntry) (hab : a.le b = true) (hbc : b.le c = true) :
    a.le c = true := by
  rw [le_iff_weight] at hab hbc ⊢
  exact Nat.le_trans hab hbc

/-- Of two entries, one may stand before the other. -/
theorem le_total (a b : NestedEntry) : (a.le b || b.le a) = true := by
  rw [Bool.or_eq_true, le_iff_weight, le_iff_weight]
  exact Nat.le_total _ _

private theorem rank_injective : Function.Injective Severity.rank := by
  intro a b h
  cases a <;> cases b <;> first | rfl | cases h

private theorem rank_le_of_le {a b : NestedEntry} (h : a.le b = true) :
    a.severity.rank ≤ b.severity.rank := by
  rw [le_iff_weight] at h
  unfold weight at h
  have ha := Bool.toNat_le a.value.isNone
  have hb := Bool.toNat_le b.value.isNone
  have ha' := Bool.toNat_le a.isAlias
  have hb' := Bool.toNat_le b.isAlias
  omega

/-! ### A stable sort -/

private theorem insert_append {entry : NestedEntry} {before after : List NestedEntry}
    (hbefore : ∀ other ∈ before, entry.le other = false)
    (hafter : ∀ other ∈ after, entry.le other = true) :
    entry.insert (before ++ after) = before ++ entry :: after := by
  induction before with
  | nil =>
    cases after with
    | nil => rfl
    | cons first rest =>
      rw [List.nil_append, insert, if_pos (hafter first List.mem_cons_self), List.nil_append]
  | cons first before ih =>
    obtain ⟨hfirst, hbefore⟩ := List.forall_mem_cons.mp hbefore
    rw [List.cons_append, insert, hfirst, if_neg Bool.false_ne_true, ih hbefore, List.cons_append]

/-- The entries are sorted as the library sorts. -/
theorem sort_eq_mergeSort (entries : List NestedEntry) : sort entries = entries.mergeSort le := by
  induction entries with
  | nil => simp [sort]
  | cons entry rest ih =>
    obtain ⟨before, after, hall, hrest, hbefore⟩ :=
      List.mergeSort_cons le_trans le_total entry rest
    have hsorted := List.pairwise_mergeSort le_trans le_total (entry :: rest)
    rw [hall, List.pairwise_append, List.pairwise_cons] at hsorted
    have hinsert : sort (entry :: rest) = entry.insert (sort rest) := rfl
    rw [hinsert, ih, hrest, hall]
    exact insert_append (by simpa using hbefore) hsorted.2.1.1

/-- Sorting keeps the entries. -/
theorem sort_perm (entries : List NestedEntry) : (sort entries).Perm entries :=
  sort_eq_mergeSort entries ▸ List.mergeSort_perm entries le

/-- Of the sorted entries, each may stand before those after it. -/
theorem pairwise_sort (entries : List NestedEntry) :
    (sort entries).Pairwise fun a b ↦ a.le b = true :=
  sort_eq_mergeSort entries ▸ List.pairwise_mergeSort le_trans le_total entries

/-- Entries of one rank stay in the order in which they came. -/
theorem filter_sort {p : NestedEntry → Bool} {entries : List NestedEntry}
    (h : ∀ a b : NestedEntry, p a = true → p b = true → a.le b = true) :
    (sort entries).filter p = entries.filter p := by
  have hsorted : (entries.filter p).Pairwise fun a b ↦ a.le b = true :=
    List.pairwise_of_forall_mem_list fun a ha b hb ↦
      h a b (List.mem_filter.mp ha).2 (List.mem_filter.mp hb).2
  have hsublist := List.sublist_mergeSort le_trans le_total hsorted List.filter_sublist
  rw [← sort_eq_mergeSort] at hsublist
  have hkept := hsublist.filter p
  simp only [List.filter_filter, Bool.and_self] at hkept
  exact (hkept.eq_of_length ((sort_perm entries).filter p).length_eq.symm).symm

/-! ### The first entry of each severity -/

private theorem eraseRepsBy_loop {α : Type} (r : α → α → Bool) (first : α) (rest kept : List α) :
    List.eraseRepsBy.loop r first rest kept =
      kept.reverse ++ List.eraseRepsBy.loop r first rest [] := by
  induction rest generalizing first kept with
  | nil => simp [List.eraseRepsBy.loop]
  | cons next rest ih =>
    rw [List.eraseRepsBy.loop, List.eraseRepsBy.loop]
    cases r first next with
    | true => exact ih first kept
    | false =>
      dsimp only
      rw [ih next (first :: kept), ih next [first]]
      simp

private theorem firstOfEach_cons_cons (first next : NestedEntry) (rest : List NestedEntry) :
    firstOfEach (first :: next :: rest) =
      if first.severity = next.severity then firstOfEach (first :: rest)
      else first :: firstOfEach (next :: rest) := by
  unfold firstOfEach List.eraseRepsBy
  dsimp only
  rw [List.eraseRepsBy.loop]
  split_ifs with h
  · rw [h, beq_self_eq_true]
  · rw [beq_eq_false_iff_ne.mpr h]
    exact eraseRepsBy_loop _ next rest [first]

/-- Of sorted entries, the first of each severity are left, and their severities increase. -/
private theorem exists_firstOfEach_eq {first : NestedEntry} {rest : List NestedEntry}
    (hsorted : (first :: rest).Pairwise fun a b ↦ a.severity.rank ≤ b.severity.rank) :
    ∃ others, firstOfEach (first :: rest) = first :: others ∧
      ((first :: others).Pairwise fun a b ↦ a.severity.rank < b.severity.rank) ∧
      ∀ severity, (first :: others).find? (·.severity = severity) =
        (first :: rest).find? (·.severity = severity) := by
  induction rest generalizing first with
  | nil => exact ⟨[], rfl, List.pairwise_singleton _ _, fun _ ↦ rfl⟩
  | cons next rest ih =>
    rw [firstOfEach_cons_cons]
    obtain ⟨hfirst, hrest⟩ := List.pairwise_cons.mp hsorted
    split_ifs with hsame
    · obtain ⟨others, hothers, hpairwise, hfind⟩ :=
        ih (hsorted.sublist (List.Sublist.cons_cons first (List.sublist_cons_self next rest)))
      refine ⟨others, hothers, hpairwise, fun severity ↦ (hfind severity).trans ?_⟩
      by_cases heq : first.severity = severity
      · simp [heq]
      · simp [heq, hsame ▸ heq]
    · obtain ⟨others, hothers, hpairwise, hfind⟩ := ih hrest
      refine ⟨next :: others, by rw [hothers], List.pairwise_cons.mpr ⟨?_, hpairwise⟩, ?_⟩
      · have hlt : first.severity.rank < next.severity.rank :=
          Nat.lt_of_le_of_ne (hfirst next List.mem_cons_self) fun h ↦ hsame (rank_injective h)
        exact List.forall_mem_cons.mpr ⟨hlt, fun other hother ↦
          Nat.lt_trans hlt ((List.pairwise_cons.mp hpairwise).1 other hother)⟩
      · intro severity
        rw [List.find?_cons, hfind, List.find?_cons (a := first)]

/-- Entries with increasing severities are what is found for each severity in turn. -/
private theorem eq_filterMap_find? {severities : List Severity} {entries : List NestedEntry}
    (hseverities : severities.Pairwise fun a b ↦ a.rank < b.rank)
    (hentries : entries.Pairwise fun a b ↦ a.severity.rank < b.severity.rank)
    (hall : ∀ entry ∈ entries, entry.severity ∈ severities) :
    entries = severities.filterMap fun severity ↦ entries.find? (·.severity = severity) := by
  induction severities generalizing entries with
  | nil =>
    rw [List.filterMap_nil, List.eq_nil_iff_forall_not_mem]
    exact fun entry hentry ↦ List.not_mem_nil (hall entry hentry)
  | cons severity severities ih =>
    obtain ⟨hlater, hincreasing⟩ := List.pairwise_cons.mp hseverities
    cases entries with
    | nil => simp
    | cons first rest =>
      obtain ⟨hbelow, hrest⟩ := List.pairwise_cons.mp hentries
      by_cases hfirst : first.severity = severity
      · subst hfirst
        have hothers : ∀ other ∈ rest, other.severity ∈ severities := fun other hother ↦
          List.mem_of_ne_of_mem (fun hsame ↦ Nat.lt_irrefl _ (hsame ▸ hbelow other hother))
            (hall other (List.mem_cons_of_mem _ hother))
        rw [List.filterMap_cons_some (b := first) (by simp)]
        congr 1
        refine (ih hincreasing hrest hothers).trans (List.filterMap_congr fun other hother ↦ ?_)
        have hne : first.severity ≠ other := fun heq ↦ Nat.lt_irrefl _ (heq ▸ hlater other hother)
        rw [List.find?_cons_of_neg (by simpa using hne)]
      · -- the severity comes before that of the first entry, hence before all of them
        have hlt : severity.rank < first.severity.rank :=
          hlater _ (List.mem_of_ne_of_mem hfirst (hall first List.mem_cons_self))
        have hnone : ∀ entry ∈ first :: rest, entry.severity ≠ severity := by
          refine List.forall_mem_cons.mpr ⟨hfirst, fun other hother hsame ↦ ?_⟩
          exact Nat.lt_irrefl _ (Nat.lt_trans hlt (hsame ▸ hbelow other hother))
        rw [List.filterMap_cons_none (by simpa using hnone)]
        exact ih hincreasing hentries fun entry hentry ↦
          List.mem_of_ne_of_mem (hnone entry hentry) (hall entry hentry)

/-- What is left of the sorted entries is found for each severity in turn. -/
theorem firstOfEach_sort (entries : List NestedEntry) :
    firstOfEach (sort entries) =
      Severity.all.filterMap fun severity ↦ (sort entries).find? (·.severity = severity) := by
  cases hsort : sort entries with
  | nil => rfl
  | cons first rest =>
    have hsorted := (pairwise_sort entries).imp rank_le_of_le
    rw [hsort] at hsorted
    obtain ⟨others, hothers, hpairwise, hfind⟩ := exists_firstOfEach_eq hsorted
    have hall : Severity.all.Pairwise fun a b ↦ a.rank < b.rank := by decide
    rw [hothers, eq_filterMap_find? hall hpairwise fun entry _ ↦ Severity.mem_all entry.severity]
    exact List.filterMap_congr fun severity _ ↦ hfind severity

/-! ### What is left for a severity -/

/-- Where the items with a property come before the others, the first item is one of these if there
is any. -/
private theorem find?_eq_or {α : Type} {r : α → α → Prop} {p q : α → Bool} {items : List α}
    (hitems : items.Pairwise r)
    (h : ∀ a b, r a b → q a = true → q b = true → p b = true → p a = true) :
    items.find? q = (items.find? fun item ↦ q item && p item).or
      (items.find? fun item ↦ q item && !p item) := by
  induction items with
  | nil => rfl
  | cons first rest ih =>
    obtain ⟨hfirst, hrest⟩ := List.pairwise_cons.mp hitems
    simp only [List.find?_cons]
    cases hq : q first with
    | false => simpa using ih hrest
    | true =>
      cases hp : p first with
      | true => simp
      | false =>
        have hnone : rest.find? (fun item ↦ q item && p item) = none := by
          rw [List.find?_eq_none]
          intro other hother hboth
          obtain ⟨hqOther, hpOther⟩ := Bool.and_eq_true_iff.mp hboth
          rw [h first other (hfirst other hother) hq hqOther hpOther] at hp
          cases hp
        simp [hnone]

/-- The first entry of a kind, all of whose entries have one rank, is the same after sorting. -/
private theorem find?_sort {p : NestedEntry → Bool} {entries : List NestedEntry}
    (h : ∀ a b : NestedEntry, p a = true → p b = true → a.le b = true) :
    (sort entries).find? p = entries.find? p := by
  rw [← List.head?_filter, filter_sort h, List.head?_filter]

section Same

variable {a b : NestedEntry} (hseverity : a.severity = b.severity)

include hseverity

private theorem le_of_same (hsome : a.value.isSome = b.value.isSome)
    (hname : a.isAlias = b.isAlias) : a.le b = true := by
  have hweight : a.weight = b.weight := by
    unfold weight
    rw [hseverity, hname, ← Option.not_isSome, ← Option.not_isSome, hsome]
  exact le_iff_weight.mpr (Nat.le_of_eq hweight)

private theorem isSome_of_le (h : a.le b = true) (hb : b.value.isSome = true) :
    a.value.isSome = true := by
  rw [le_iff_weight, weight, weight, hseverity] at h
  have hname := Bool.toNat_le b.isAlias
  rw [← Option.not_isSome, ← Option.not_isSome, hb] at h
  cases hsome : a.value.isSome with
  | true => rfl
  | false =>
    simp only [hsome, Bool.not_false, Bool.not_true, Bool.toNat_true, Bool.toNat_false] at h
    omega

private theorem not_isAlias_of_le (h : a.le b = true)
    (hsome : a.value.isSome = b.value.isSome) (hb : b.isAlias = false) : a.isAlias = false := by
  rw [le_iff_weight, weight, weight, hseverity, hb] at h
  rw [← Option.not_isSome, ← Option.not_isSome, hsome] at h
  cases hname : a.isAlias with
  | false => rfl
  | true =>
    simp only [hname, Bool.toNat_true, Bool.toNat_false] at h
    omega

end Same

private theorem find?_not_of_find?_eq_none {α : Type} {p q : α → Bool} {items : List α}
    (h : (items.find? fun item ↦ q item && p item) = none) :
    (items.find? fun item ↦ q item && !p item) = items.find? q := by
  rw [← List.head?_filter, ← List.head?_filter]
  congr 1
  refine List.filter_congr fun item hitem ↦ ?_
  have hnot := List.find?_eq_none.mp h item hitem
  cases hq : q item <;> simp_all

private theorem map_value_find?_null (entries : List NestedEntry) (severity : Severity) :
    (entries.find? fun entry ↦
        decide (entry.severity = severity) && !entry.value.isSome).map (·.value) =
      if entries.any fun entry ↦ decide (entry.severity = severity) && !entry.value.isSome
      then some none else none := by
  simp only [List.any_eq_true, ← List.find?_isSome]
  cases hfind : entries.find? fun entry ↦
      decide (entry.severity = severity) && !entry.value.isSome with
  | none => rfl
  | some entry =>
    have hentry := List.find?_some hfind
    have hnone : entry.value = none := by simpa using (Bool.and_eq_true_iff.mp hentry).2
    rw [Option.map_some, hnone]
    rfl

/-- The first of the sorted entries for a severity has the value that is chosen. -/
theorem find?_sort_map_value (entries : List NestedEntry) (severity : Severity) :
    ((sort entries).find? (·.severity = severity)).map (·.value) = chosen? entries severity := by
  have hsorted := pairwise_sort entries
  -- numbers come before null, and of the numbers those under the severity's own name come first
  have hnumbers := find?_eq_or (q := fun entry ↦ entry.severity = severity)
    (p := fun entry ↦ entry.value.isSome) hsorted fun a b hle ha hb ↦
      isSome_of_le (by simp_all) hle
  have hown := find?_eq_or
    (q := fun entry ↦ decide (entry.severity = severity) && entry.value.isSome)
    (p := fun entry ↦ !entry.isAlias) hsorted fun a b hle ha hb hname ↦ by
      rw [Bool.and_eq_true, decide_eq_true_iff] at ha hb
      rw [Bool.not_eq_true'] at hname ⊢
      exact not_isAlias_of_le (ha.1.trans hb.1.symm) hle (ha.2.trans hb.2.symm) hname
  rw [hnumbers, hown, find?_sort, find?_sort]
  · unfold chosen?
    simp only [List.find?_filter, Option.orElse_eq_orElse, Option.orElse_eq_or, List.head?_filter,
      Bool.decide_and, Bool.decide_eq_true, ← Bool.and_assoc]
    cases hfirst : entries.find? fun entry ↦
        decide (entry.severity = severity) && entry.value.isSome && !entry.isAlias with
    | some entry => rfl
    | none =>
      rw [find?_not_of_find?_eq_none hfirst, Option.none_or, Option.none_or]
      cases hsecond : entries.find? fun entry ↦
          decide (entry.severity = severity) && entry.value.isSome with
      | some entry => rfl
      | none =>
        rw [Option.none_or, Option.none_or, map_value_find?_null, (sort_perm entries).any_eq,
          ← map_value_find?_null, find?_not_of_find?_eq_none hsecond]
  -- the entries sought, under the own name or under another one, have one rank
  all_goals
    intro a b ha hb
    simp only [Bool.and_eq_true, decide_eq_true_eq] at ha hb
    exact le_of_same (ha.1.1.trans hb.1.1.symm) (ha.1.2.trans hb.1.2.symm) (by simp_all)

end NestedEntry

/-- A nested map sets the count of each severity in turn to what is chosen for it. -/
theorem overrideCounts_eq (package : Package) (scope : Scope) (counts : VulnerabilityCounts)
    (entries : List NestedEntry) :
    overrideCounts package scope counts entries =
      Severity.all.foldlM (override package scope entries) counts := by
  unfold overrideCounts
  rw [NestedEntry.firstOfEach_sort, List.foldlM_filterMap]
  congr 1
  funext counts severity
  have hfirst := NestedEntry.find?_sort_map_value entries severity
  unfold override
  cases hfind : (NestedEntry.sort entries).find? (·.severity = severity) with
  | none =>
    rw [hfind] at hfirst
    rw [← hfirst]
    rfl
  | some entry =>
    rw [hfind] at hfirst
    rw [← hfirst]
    obtain rfl : entry.severity = severity := by simpa using List.find?_some hfind
    rfl

end PackageRisk.RawReport
