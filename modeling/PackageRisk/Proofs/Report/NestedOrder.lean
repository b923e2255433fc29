import PackageRisk.Proofs.Report.NestedCounts

/-!
# The order of nested maps

A nested map is a set of entries, and resolving goes through them in some order. Entries that name
one severity are ranked: those other than null come first, and of these the ones under the
severity's own name. Among the entries of one rank the order decides. Hence the counts do not depend
on the order exactly when the foremost entries of every severity have one value, or when no order
gives counts at all.
-/

namespace PackageRisk

open Fallible

namespace RawReport

/-- The raw report with other entries in the nested map of a scope. -/
def withNested (raw : RawReport) (scope : Scope) (entries : List (String × Option Int)) :
    RawReport :=
  match scope with
  | .direct => { raw with directCounts := entries }
  | .indirect => { raw with indirectCounts := entries }

/-- In whichever two orders the entries of a nested map are gone through, the counts of its scope
come out the same, or in neither of them. -/
def IgnoresOrder (raw : RawReport) (source : String) (package : Package) (scope : Scope) : Prop :=
  ∀ one other, (raw.nested scope).Perm one → (raw.nested scope).Perm other → ∀ counts,
    (raw.withNested scope one).vulnerabilityCounts source package scope = .ok counts ↔
      (raw.withNested scope other).vulnerabilityCounts source package scope = .ok counts

/-- The items with a property, or else all of them. -/
def preferring {α : Type} (p : α → Bool) (items : List α) : List α :=
  if items.any p then items.filter p else items

/-- The foremost entries for a severity: of those that name it the ones other than null, and of
these the ones under its own name. -/
def foremost (nested : List (String × Option Int)) (severity : Severity) :
    List (String × Option Int) :=
  preferring (fun entry ↦ !severity.isAlias entry.1)
    (preferring (fun entry ↦ entry.2.isSome) (namesakes nested severity))

@[simp] private theorem nested_withNested (raw : RawReport) (scope : Scope)
    (entries : List (String × Option Int)) :
    (raw.withNested scope entries).nested scope = entries := by
  cases scope <;> rfl

/-- Nested maps do not matter for the keys of the report itself. -/
@[simp] theorem countOf?_withNested (raw : RawReport) (scope : Scope)
    (entries : List (String × Option Int)) (source : String) (package : Package) (field : Field) :
    (raw.withNested scope entries).countOf? source package field =
      raw.countOf? source package field := by
  cases scope <;> rfl

section Preferring

variable {α : Type} {p : α → Bool} {items others : List α} {a b : α}

/-- The preferred items of a list are some of its items, in their order. -/
theorem preferring_sublist (p : α → Bool) (items : List α) :
    (preferring p items).Sublist items := by
  unfold preferring
  split
  · exact List.filter_sublist
  · exact List.Sublist.refl items

/-- Where an item has the property, the preferred items are the ones with it. -/
theorem preferring_eq_filter (h : ∃ item ∈ items, p item = true) :
    preferring p items = items.filter p :=
  if_pos (List.any_eq_true.mpr h)

/-- Either all of the preferred items have the property or none has it. -/
theorem eq_of_mem_preferring (ha : a ∈ preferring p items) (hb : b ∈ preferring p items) :
    p a = p b := by
  unfold preferring at ha hb
  split at ha <;> rename_i hany
  · rw [if_pos hany] at hb
    rw [(List.mem_filter.mp ha).2, (List.mem_filter.mp hb).2]
  · rw [if_neg hany] at hb
    have hfalse : ∀ item ∈ items, p item = false := by simpa using hany
    rw [hfalse a ha, hfalse b hb]

/-- The first of the preferred items is the first with the property, or else the first of all. -/
theorem head?_preferring (p : α → Bool) (items : List α) :
    (preferring p items).head? = (items.find? p).or items.head? := by
  unfold preferring
  split <;> rename_i hany
  · rw [List.head?_filter]
    have hfound := List.find?_isSome.mpr (List.any_eq_true.mp hany)
    obtain ⟨item, hitem⟩ := Option.isSome_iff_exists.mp hfound
    rw [hitem, Option.some_or]
  · have hnone : items.find? p = none := by simpa using hany
    rw [hnone, Option.none_or]

private theorem preferring_eq_nil_iff : preferring p items = [] ↔ items = [] := by
  rw [← List.head?_eq_none_iff, head?_preferring, Option.or_eq_none_iff, List.head?_eq_none_iff]
  constructor
  · exact fun h ↦ h.2
  · rintro rfl
    exact ⟨rfl, rfl⟩

/-- Taking away items without the property makes no difference where there is one with it. -/
theorem preferring_filter {q : α → Bool} (hany : items.any p = true)
    (hq : ∀ item ∈ items, p item = true → q item = true) :
    preferring p (items.filter q) = preferring p items := by
  have hsame : (items.filter q).filter p = items.filter p := by
    rw [List.filter_filter]
    refine List.filter_congr fun item hitem ↦ ?_
    cases hp : p item with
    | false => rfl
    | true => exact hq item hitem hp
  have hfiltered : (items.filter q).any p = true := by
    obtain ⟨item, hitem, hp⟩ := List.any_eq_true.mp hany
    exact List.any_eq_true.mpr ⟨item, List.mem_filter.mpr ⟨hitem, hq item hitem hp⟩, hp⟩
  rw [preferring, if_pos hfiltered, preferring, if_pos hany, hsame]

private theorem preferring_perm (p : α → Bool) (h : items.Perm others) :
    (preferring p items).Perm (preferring p others) := by
  unfold preferring
  rw [h.any_eq]
  split
  · exact h.filter p
  · exact h

/-- A preferred item that stands first is the first of the preferred ones. -/
theorem exists_preferring_cons_eq (h : a ∈ preferring p (a :: items)) :
    ∃ rest, preferring p (a :: items) = a :: rest := by
  unfold preferring at h ⊢
  split at h <;> rename_i hany
  · rw [if_pos hany]
    exact ⟨_, List.filter_cons_of_pos (List.mem_filter.mp h).2⟩
  · rw [if_neg hany]
    exact ⟨items, rfl⟩

end Preferring

section Foremost

variable {nested other : List (String × Option Int)} {severity : Severity}

/-- A nested map gives a severity the value of the first of its foremost entries. -/
theorem nestedValue?_eq_head? (nested : List (String × Option Int)) (severity : Severity) :
    nestedValue? nested severity = (foremost nested severity).head?.map (·.2) := by
  have hmine : ((namesakes nested severity).map (namesakeOf severity)).filter
      (fun entry ↦ entry.severity = severity) =
        (namesakes nested severity).map (namesakeOf severity) := by
    rw [List.filter_eq_self]
    intro entry hentry
    obtain ⟨source, -, rfl⟩ := List.mem_map.mp hentry
    exact decide_eq_true rfl
  unfold nestedValue? chosen? foremost
  simp only [hmine, List.find?_map, List.head?_map, Option.orElse_eq_orElse, Option.orElse_eq_or,
    ← Option.map_or, Option.map_map, head?_preferring, Function.comp_def, namesakeOf]
  generalize namesakes nested severity = mine
  unfold preferring
  split <;> rename_i hany
  · simp only [List.find?_filter, Bool.decide_and, Bool.decide_eq_true]
  · -- every value is null, so it does not matter which entry comes first
    have hnull : ∀ entry ∈ mine, entry.2 = none := by simpa using hany
    have hfull : mine.find? (fun entry ↦ entry.2.isSome) = none := by simpa using hany
    have hboth : mine.find? (fun entry ↦ entry.2.isSome && !severity.isAlias entry.1) = none := by
      rw [List.find?_eq_none]
      intro entry hentry
      simp [hnull entry hentry]
    rw [hfull, hboth, Option.none_or, Option.none_or]
    cases mine with
    | nil => rfl
    | cons first rest =>
      cases hfind : (first :: rest).find? fun entry ↦ !severity.isAlias entry.1 with
      | none => rfl
      | some entry =>
        have hentry := hnull entry (List.mem_of_find?_eq_some hfind)
        have hfirst := hnull first List.mem_cons_self
        rw [Option.some_or, List.head?_cons, Option.map_some, Option.map_some, hentry, hfirst]

/-- The foremost entries name the severity. -/
theorem foremost_subset (nested : List (String × Option Int)) (severity : Severity) :
    foremost nested severity ⊆ namesakes nested severity := fun _ h ↦
  (preferring_sublist _ _).subset ((preferring_sublist _ _).subset h)

/-- Where there are entries for a severity, one of the foremost decides. -/
theorem exists_mem_foremost (hsome : namesakes nested severity ≠ []) :
    ∃ entry ∈ foremost nested severity, nestedValue? nested severity = some entry.2 := by
  have hforemost : foremost nested severity ≠ [] := by
    rw [foremost, ne_eq, preferring_eq_nil_iff, preferring_eq_nil_iff]
    exact hsome
  obtain ⟨entry, rest, hcons⟩ := List.exists_cons_of_ne_nil hforemost
  refine ⟨entry, hcons ▸ List.mem_cons_self, ?_⟩
  rw [nestedValue?_eq_head?, hcons]
  rfl

/-- If one of the foremost entries is null, all of them are. -/
theorem isSome_eq_of_mem_foremost {a b : String × Option Int} (ha : a ∈ foremost nested severity)
    (hb : b ∈ foremost nested severity) : a.2.isSome = b.2.isSome :=
  eq_of_mem_preferring (p := fun entry : String × Option Int ↦ entry.2.isSome)
    ((preferring_sublist _ _).subset ha) ((preferring_sublist _ _).subset hb)

/-- Another order of a nested map is another order of the foremost entries. -/
theorem foremost_perm (h : nested.Perm other) (severity : Severity) :
    (foremost nested severity).Perm (foremost other severity) :=
  preferring_perm _ (preferring_perm _ (h.filter _))

/-- Each of the foremost entries decides in some order. -/
theorem exists_perm_of_mem_foremost {entry : String × Option Int}
    (h : entry ∈ foremost nested severity) :
    ∃ other, nested.Perm other ∧ nestedValue? other severity = some entry.2 := by
  obtain ⟨hnested, hname⟩ := List.mem_filter.mp (foremost_subset nested severity h)
  have hperm := List.perm_cons_erase hnested
  refine ⟨entry :: nested.erase entry, hperm, ?_⟩
  have hmem := (foremost_perm hperm severity).mem_iff.mp h
  have hcons : namesakes (entry :: nested.erase entry) severity =
      entry :: namesakes (nested.erase entry) severity :=
    List.filter_cons_of_pos hname
  rw [nestedValue?_eq_head?]
  unfold foremost at hmem ⊢
  rw [hcons] at hmem ⊢
  obtain ⟨filled, hfilled⟩ := exists_preferring_cons_eq ((preferring_sublist _ _).subset hmem)
  rw [hfilled] at hmem ⊢
  obtain ⟨own, hown⟩ := exists_preferring_cons_eq hmem
  rw [hown]
  rfl

/-- If the foremost entries have one value, a nested map gives it in every order. -/
theorem nestedValue?_perm (h : nested.Perm other)
    (hsame : ∀ a ∈ foremost nested severity, ∀ b ∈ foremost nested severity, a.2 = b.2) :
    nestedValue? other severity = nestedValue? nested severity := by
  have hperm := foremost_perm h severity
  rw [nestedValue?_eq_head?, nestedValue?_eq_head?]
  cases hnested : foremost nested severity with
  | nil => rw [hnested] at hperm; rw [hperm.nil_eq]
  | cons first rest =>
    cases hother : foremost other severity with
    | nil => rw [hother] at hperm; rw [hperm.eq_nil] at hnested; cases hnested
    | cons otherFirst otherRest =>
      have hmem : otherFirst ∈ foremost nested severity :=
        hperm.mem_iff.mpr (hother ▸ List.mem_cons_self)
      have hfirst : first ∈ foremost nested severity := hnested ▸ List.mem_cons_self
      exact congrArg some (hsame otherFirst hmem first hfirst)

end Foremost

/-! ### Counts in every order -/

/-- Whether all keys of a nested map name severities is the same in every order. -/
theorem allNamed_perm {nested other : List (String × Option Int)} (h : nested.Perm other) :
    AllNamed nested ↔ AllNamed other := by
  unfold AllNamed
  simp only [h.mem_iff]

section Counts

variable {raw : RawReport} {source : String} {package : Package} {scope : Scope}

/-- If every order gives the same counts, every foremost entry has the value of the count: there is
an order in which it decides. -/
theorem getD_eq_val_of_foremost {counts : VulnerabilityCounts}
    (hrange : ∀ entry ∈ raw.nested scope, ∀ n ∈ entry.2, n ≤ maxInteger)
    (hall : ∀ other, (raw.nested scope).Perm other →
      (raw.withNested scope other).vulnerabilityCounts source package scope = .ok counts)
    {severity : Severity} {entry : String × Option Int}
    (hentry : entry ∈ foremost (raw.nested scope) severity) :
    entry.2.getD 0 = (counts.get severity).val := by
  obtain ⟨other, hother, hdecides⟩ := exists_perm_of_mem_foremost hentry
  obtain ⟨-, hcount⟩ := vulnerabilityCounts_eq_ok_iff_countIs.mp (hall other hother)
  obtain ⟨flat?, -, hcount⟩ := hcount severity
  rw [nested_withNested, hdecides] at hcount
  refine (countOfInteger_eq_ok_iff ?_).mp hcount
  cases hn : entry.2 with
  | none => decide
  | some n => exact hrange entry (List.mem_of_mem_filter (foremost_subset _ _ hentry)) n hn

/-- If every order gives the same counts, the foremost entries of a severity have one value. -/
theorem eq_of_mem_foremost {counts : VulnerabilityCounts}
    (hrange : ∀ entry ∈ raw.nested scope, ∀ n ∈ entry.2, n ≤ maxInteger)
    (hall : ∀ other, (raw.nested scope).Perm other →
      (raw.withNested scope other).vulnerabilityCounts source package scope = .ok counts)
    {severity : Severity} {a b : String × Option Int}
    (ha : a ∈ foremost (raw.nested scope) severity)
    (hb : b ∈ foremost (raw.nested scope) severity) : a.2 = b.2 := by
  have hvalue : a.2.getD 0 = b.2.getD 0 :=
    (getD_eq_val_of_foremost hrange hall ha).trans (getD_eq_val_of_foremost hrange hall hb).symm
  have hsome := isSome_eq_of_mem_foremost ha hb
  -- null and zero have the same value, but either all foremost entries are null or none is
  cases hleft : a.2 <;> cases hright : b.2 <;> simp_all

/-- If the foremost entries of every severity have one value, the order does not matter. -/
theorem ignoresOrder_of_foremost
    (hsame : ∀ severity, ∀ a ∈ foremost (raw.nested scope) severity,
      ∀ b ∈ foremost (raw.nested scope) severity, a.2 = b.2) :
    raw.IgnoresOrder source package scope := by
  intro one other hone hother counts
  have hvalue (severity : Severity) :
      nestedValue? one severity = nestedValue? other severity := by
    rw [nestedValue?_perm hone (hsame severity), nestedValue?_perm hother (hsame severity)]
  have hnamed : AllNamed one ↔ AllNamed other := allNamed_perm (hone.symm.trans hother)
  simp only [vulnerabilityCounts_eq_ok_iff_countIs, CountIs, nested_withNested,
    countOf?_withNested, hvalue, hnamed]

/-- The counts of a scope depend on the order of its nested map exactly when there are orders that
give counts and, for some severity, foremost entries with different values. -/
theorem ignoresOrder_iff
    (hrange : ∀ entry ∈ raw.nested scope, ∀ n ∈ entry.2, n ≤ maxInteger) :
    raw.IgnoresOrder source package scope ↔
      (∀ entries, (raw.nested scope).Perm entries → ∀ counts,
        (raw.withNested scope entries).vulnerabilityCounts source package scope ≠ .ok counts) ∨
      ∀ severity, ∀ a ∈ foremost (raw.nested scope) severity,
        ∀ b ∈ foremost (raw.nested scope) severity, a.2 = b.2 := by
  constructor
  · intro hignores
    by_cases hall : ∀ entries, (raw.nested scope).Perm entries → ∀ counts,
        (raw.withNested scope entries).vulnerabilityCounts source package scope ≠ .ok counts
    · exact .inl hall
    · right
      push Not at hall
      obtain ⟨entries, hperm, counts, hcounts⟩ := hall
      exact fun severity a ha b hb ↦ eq_of_mem_foremost hrange
        (fun other hother ↦ (hignores entries other hperm hother counts).mp hcounts) ha hb
  · rintro (hnone | hsame)
    · intro one other hone hother counts
      exact ⟨fun h ↦ absurd h (hnone one hone counts), fun h ↦ absurd h (hnone other hother counts)⟩
    · exact ignoresOrder_of_foremost hsame

end Counts

private def reorderedPackage : Package := ⟨"a", "1", by decide +kernel, by decide +kernel⟩

private def agreeingNode : RawReport :=
  ⟨[("name", .string "a"), ("version", .string "1")],
    [("HIGH", some 3), (" high", some 3), ("moderate", some 9), ("medium", some 1), ("LOW", none),
      ("low", none)], [], []⟩

/-- Several entries of one rank do no harm while they agree, and entries of a lower rank need not
agree. -/
theorem ignoresOrder_iff_agreeing :
    (∀ entry ∈ agreeingNode.nested .direct, ∀ n ∈ entry.2, n ≤ maxInteger) ∧
      agreeingNode.IgnoresOrder "r.json" reorderedPackage .direct := by
  have hrange : ∀ entry ∈ agreeingNode.nested .direct, ∀ n ∈ entry.2, n ≤ maxInteger := by decide
  have hsame : ∀ severity ∈ Severity.all, ∀ a ∈ foremost (agreeingNode.nested .direct) severity,
      ∀ b ∈ foremost (agreeingNode.nested .direct) severity, a.2 = b.2 := by
    decide +kernel
  exact ⟨hrange, (ignoresOrder_iff hrange).mpr
    (.inr fun severity ↦ hsame severity severity.mem_all)⟩

private def tiedNode : RawReport :=
  ⟨[("name", .string "a"), ("version", .string "1")], [("CRITICAL", some 1), ("critical", some 2)],
    [], []⟩

/-- Of two capitalizations of one name, the one that comes first decides. -/
theorem not_ignoresOrder_tied :
    ((tiedNode.nested .direct).map (·.1)).Nodup ∧
      tiedNode.vulnerabilityCounts "r.json" reorderedPackage .direct = .ok ⟨.clamp 1, 0, 0, 0⟩ ∧
      (tiedNode.withNested .direct [("critical", some 2), ("CRITICAL", some 1)]).vulnerabilityCounts
        "r.json" reorderedPackage .direct = .ok ⟨.clamp 2, 0, 0, 0⟩ ∧
      ¬tiedNode.IgnoresOrder "r.json" reorderedPackage .direct := by
  have hone : tiedNode.vulnerabilityCounts "r.json" reorderedPackage .direct =
      .ok ⟨.clamp 1, 0, 0, 0⟩ := rfl
  have htwo : (tiedNode.withNested .direct
      [("critical", some 2), ("CRITICAL", some 1)]).vulnerabilityCounts "r.json" reorderedPackage
        .direct = .ok ⟨.clamp 2, 0, 0, 0⟩ := rfl
  refine ⟨by decide, hone, htwo, fun hignores ↦ ?_⟩
  have hsame := (hignores (tiedNode.nested .direct) [("critical", some 2), ("CRITICAL", some 1)]
    (List.Perm.refl _) (List.Perm.swap _ _ _) ⟨.clamp 1, 0, 0, 0⟩).mp hone
  rw [htwo, Except.ok.injEq] at hsame
  exact absurd hsame (by decide)

end RawReport

end PackageRisk
