import PackageRisk.Proofs.Report.NestedOrder
import PackageRisk.Proofs.Report.Spelling

/-!
# Counts that are null

A null under a key of its own is as good as nothing, and so is a null in a nested map beside another
entry for the severity. A null that is the only entry for its severity is not: it overrides the keys
of the severity, and counts zero. So a null can be taken away without a difference unless it is such
an entry and a count other than zero stands under a key.
-/

namespace PackageRisk

open Fallible

namespace RawReport

/-- A spelling hides the count of a severity: it is the only entry for it in the nested map, its
value is null, and a count other than zero stands under a key. -/
def Hides (raw : RawReport) (scope : Scope) (severity : Severity) (spelling : Spelling) : Prop :=
  ∃ name, spelling = .nested scope name ∧
    namesakes (raw.nested scope) severity = [(name, none)] ∧
    ∃ n, n ≠ 0 ∧ raw.valueOf? (.vulnerabilities scope severity) = some (.integer n)

/-- A nested map has entries for a severity, and all of them are null. -/
def NullOnly (nested : List (String × Option Int)) (severity : Severity) : Prop :=
  namesakes nested severity ≠ [] ∧ ∀ entry ∈ namesakes nested severity, entry.2 = none

/-- A value stands under one of the spellings of the count of a severity. -/
def Spelled (raw : RawReport) (scope : Scope) (severity : Severity) (value : Json.Value) : Prop :=
  ∃ spelling : Spelling, spelling.Spells (.vulnerabilities scope severity) ∧
    raw.valueUnder? spelling = some value

section Nested

variable {nested other : List (String × Option Int)} {severity : Severity}

/-- Entries that are all null give null. -/
theorem nestedValue?_of_nullOnly (h : NullOnly nested severity) :
    nestedValue? nested severity = some none := by
  obtain ⟨hsome, hnull⟩ := h
  obtain ⟨entry, hentry, hvalue⟩ := exists_mem_foremost hsome
  rw [hvalue, hnull entry (foremost_subset nested severity hentry)]

/-- Taking away null entries makes no difference as long as an entry for the severity remains. -/
theorem nestedValue?_of_filter {p : String × Option Int → Bool}
    (hother : namesakes other severity = (namesakes nested severity).filter p)
    (hnull : ∀ entry ∈ namesakes nested severity, p entry = false → entry.2 = none)
    (hremains : namesakes other severity ≠ []) :
    nestedValue? other severity = nestedValue? nested severity := by
  by_cases hany : (namesakes nested severity).any fun entry ↦ entry.2.isSome
  · have hkept : ∀ entry ∈ namesakes nested severity, entry.2.isSome = true → p entry = true := by
      intro entry hentry hsome
      by_contra hdropped
      rw [hnull entry hentry (by simpa using hdropped)] at hsome
      cases hsome
    have hforemost : foremost other severity = foremost nested severity := by
      rw [foremost, foremost, hother, preferring_filter hany hkept]
    rw [nestedValue?_eq_head?, nestedValue?_eq_head?, hforemost]
  · have hallNull : ∀ entry ∈ namesakes nested severity, entry.2 = none := by simpa using hany
    have hsubset : ∀ entry ∈ namesakes other severity, entry ∈ namesakes nested severity := by
      rw [hother]
      exact fun entry hentry ↦ List.mem_of_mem_filter hentry
    have hnested : namesakes nested severity ≠ [] := by
      intro hnil
      rw [hother, hnil] at hremains
      exact hremains rfl
    rw [nestedValue?_of_nullOnly ⟨hnested, hallNull⟩,
      nestedValue?_of_nullOnly ⟨hremains, fun entry hentry ↦ hallNull entry (hsubset entry hentry)⟩]

end Nested

/-! ### Erasing a null -/

section Erase

variable {raw : RawReport} {source : String} {scope : Scope} {severity : Severity}
  {spelling : Spelling}

/-- Erasing a null changes no field. -/
theorem valueOf?_erase_null (hnull : raw.valueUnder? spelling = some .null) (field : Field) :
    (raw.erase spelling).valueOf? field = raw.valueOf? field := by
  refine valueOf?_congr fun key _ ↦ ?_
  have hlookup := valueUnder?_erase raw spelling (.key key)
  by_cases hkey : Spelling.key key = spelling
  · subst hkey
    rw [if_pos rfl] at hlookup
    have herased : Json.lookup (raw.erase (.key key)).members key = none := hlookup
    have hraw : Json.lookup raw.members key = some .null := hnull
    rw [herased, hraw]
    rfl
  · rw [if_neg hkey] at hlookup
    exact congrArg (Option.filter _) hlookup

/-- A spelling with null has only null entries in a nested map without repeated keys. -/
theorem eq_none_of_erased (hnodup : raw.NestedNodup)
    (hnull : raw.valueUnder? spelling = some .null) :
    ∀ entry ∈ raw.nested scope, Spelling.nested scope entry.1 = spelling → entry.2 = none := by
  rintro ⟨name, value⟩ hentry rfl
  have hlookup := Json.lookup_of_mem (hnodup scope) hentry
  rw [valueUnder?, hlookup, Option.map_some, Option.some.injEq] at hnull
  cases value with
  | none => rfl
  | some n => cases hnull

/-- What is left of a nested map gives a severity the same as long as an entry for it is left. -/
theorem nestedValue?_erase_null (hnodup : raw.NestedNodup)
    (hnull : raw.valueUnder? spelling = some .null)
    (hremains : namesakes ((raw.erase spelling).nested scope) severity ≠ []) :
    nestedValue? ((raw.erase spelling).nested scope) severity =
      nestedValue? (raw.nested scope) severity := by
  refine nestedValue?_of_filter (namesakes_erase raw spelling scope severity) ?_ hremains
  intro entry hentry herased
  refine eq_none_of_erased hnodup hnull entry (List.mem_of_mem_filter hentry) ?_
  simpa using herased

/-- A spelling with null that leaves no entry for a severity was the only one. -/
theorem exists_of_namesakes_erase_eq_nil (hnodup : raw.NestedNodup)
    (hnull : raw.valueUnder? spelling = some .null)
    (hsome : namesakes (raw.nested scope) severity ≠ [])
    (hnil : namesakes ((raw.erase spelling).nested scope) severity = []) :
    ∃ name, spelling = .nested scope name ∧
      namesakes (raw.nested scope) severity = [(name, none)] := by
  obtain ⟨entry, hentry⟩ := List.exists_mem_of_ne_nil _ hsome
  obtain ⟨hmem, hname⟩ := List.mem_filter.mp hentry
  rw [namesakes_erase, List.filter_eq_nil_iff] at hnil
  have herased (other : String × Option Int)
      (hother : other ∈ namesakes (raw.nested scope) severity) :
      Spelling.nested scope other.1 = spelling := by
    simpa using hnil other hother
  have honly : namesakes (raw.nested scope) severity = [entry] := by
    refine Json.filter_eq_singleton (hnodup scope) hmem fun other hother ↦ ⟨fun hnamed ↦ ?_, ?_⟩
    · have hsame := (herased other (List.mem_filter.mpr ⟨hother, hnamed⟩)).trans
        (herased entry hentry).symm
      exact (Spelling.nested.inj hsame).2
    · intro hkey
      rw [hkey]
      exact hname
  refine ⟨entry.1, (herased entry hentry).symm, ?_⟩
  rw [honly, ← eq_none_of_erased hnodup hnull entry hmem (herased entry hentry)]

/-- Without entries in the nested map, a count is that of the keys. -/
theorem countIs_iff_of_nil (hnil : namesakes (raw.nested scope) severity = []) {package : Package}
    {count : Count} :
    raw.CountIs source package scope severity count ↔
      ∃ flat?, raw.countOf? source package (.vulnerabilities scope severity) = .ok flat? ∧
        count = flat?.getD 0 := by
  rw [CountIs, nestedValue?_eq_none hnil]

/-- Where the nested map has only null for a severity, a count under a key has to be in order, and
the count is zero. -/
theorem countIs_iff_of_nullOnly (h : NullOnly (raw.nested scope) severity) {package : Package}
    {count : Count} :
    raw.CountIs source package scope severity count ↔
      (∃ flat?, raw.countOf? source package (.vulnerabilities scope severity) = .ok flat?) ∧
        count = 0 := by
  rw [CountIs, nestedValue?_of_nullOnly h]
  simp only [Option.getD_none, countOfInteger_eq_ok_iff (show (0 : Int) ≤ maxInteger by decide),
    Count.ext_iff, Count.val_zero]
  constructor
  · rintro ⟨flat?, hflat, hcount⟩
    exact ⟨⟨flat?, hflat⟩, by omega⟩
  · rintro ⟨⟨flat?, hflat⟩, hcount⟩
    exact ⟨flat?, hflat, by omega⟩

/-- Erasing a null that hides nothing keeps the count of its severity. -/
theorem countIs_erase_null (hnodup : raw.NestedNodup)
    (hnull : raw.valueUnder? spelling = some .null)
    (hhides : ¬raw.Hides scope severity spelling) (package : Package) (count : Count) :
    (raw.erase spelling).CountIs source package scope severity count ↔
      raw.CountIs source package scope severity count := by
  have hflat := valueOf?_erase_null hnull (.vulnerabilities scope severity)
  by_cases hremains : namesakes ((raw.erase spelling).nested scope) severity = []
  · by_cases hsome : namesakes (raw.nested scope) severity = []
    · refine countIs_congr hflat ?_ source package count
      rw [nestedValue?_eq_none hremains, nestedValue?_eq_none hsome]
    · -- the null was the only entry, so there is no count other than zero under a key
      obtain ⟨name, hspelling, honly⟩ :=
        exists_of_namesakes_erase_eq_nil hnodup hnull hsome hremains
      have hzero {flat? : Option Count}
          (hvalue : raw.countOf? source package (.vulnerabilities scope severity) = .ok flat?) :
          flat?.getD 0 = 0 := by
        cases flat? with
        | none => rfl
        | some flat =>
          by_contra hne
          refine hhides ⟨name, hspelling, honly, flat.val, ?_, (countOf?_eq_ok_iff.mp hvalue).1⟩
          intro hval
          exact hne (Count.ext (by simpa using hval))
      have hnullOnly : NullOnly (raw.nested scope) severity :=
        ⟨hsome, by rw [honly]; simp⟩
      rw [countIs_iff_of_nil hremains, countIs_iff_of_nullOnly hnullOnly]
      simp only [countOf?_eq_ok_iff, hflat]
      simp only [countOf?_eq_ok_iff] at hzero
      constructor
      · rintro ⟨flat?, hvalue, rfl⟩
        exact ⟨⟨flat?, hvalue⟩, hzero hvalue⟩
      · rintro ⟨⟨flat?, hvalue⟩, rfl⟩
        exact ⟨flat?, hvalue, (hzero hvalue).symm⟩
  · exact countIs_congr hflat (nestedValue?_erase_null hnodup hnull hremains) source package count

/-- Erasing a null that hides nothing makes no difference. -/
theorem saysSame_erase_null (hnodup : raw.NestedNodup)
    (hspells : spelling.Spells (.vulnerabilities scope severity))
    (hnull : raw.valueUnder? spelling = some .null)
    (hhides : ¬raw.Hides scope severity spelling) : SaysSame (raw.erase spelling) raw := by
  refine ⟨fun field _ ↦ valueOf?_erase_null hnull field, allNamed_erase_iff raw hspells,
    fun source package otherScope other count ↦ ?_⟩
  by_cases hfield : Field.vulnerabilities otherScope other = .vulnerabilities scope severity
  · cases hfield
    exact countIs_erase_null hnodup hnull hhides package count
  · have hnested : nestedValue? ((raw.erase spelling).nested otherScope) other =
        nestedValue? (raw.nested otherScope) other := by
      rw [nestedValue?, nestedValue?, namesakes_erase_of_ne raw hspells hfield]
    exact countIs_congr (valueOf?_erase_null hnull _) hnested source package count

end Erase

/-! ### Null as good as missing -/

section Resolved

variable {raw : RawReport} {source : String} {report : Report} {scope : Scope}
  {severity : Severity}

/-- The counts of a report are those of its raw report. -/
theorem countIs_of_resolve (h : raw.resolve source = .ok report) (scope : Scope)
    (severity : Severity) :
    raw.CountIs source report.package scope severity
      ((report.input.vulnerabilities scope).get severity) := by
  have hroot := ((resolve_eq_ok_iff raw report).mp h).1
  rw [resolve_alone, resolveAlone_eq_ok_iff] at hroot
  exact (vulnerabilityCounts_eq_ok_iff_countIs.mp (hroot.vulnerabilities scope)).2 severity

/-- A count that was hidden makes a difference once the null that hid it is erased. -/
theorem resolve_erase_ne_of_hides {spelling : Spelling} (hresolve : raw.resolve source = .ok report)
    (hnull : raw.valueUnder? spelling = some .null) (h : raw.Hides scope severity spelling) :
    (raw.erase spelling).resolve source ≠ .ok report := by
  intro herased
  obtain ⟨name, rfl, honly, n, hne, hflat⟩ := h
  have hnullOnly : NullOnly (raw.nested scope) severity := by
    rw [NullOnly, honly]
    simp
  have hnil : namesakes ((raw.erase (.nested scope name)).nested scope) severity = [] := by
    rw [namesakes_erase, honly]
    simp
  -- the count was zero, and it is now the one under the keys
  have hzero := (countIs_iff_of_nullOnly hnullOnly).mp (countIs_of_resolve hresolve scope severity)
  obtain ⟨flat?, hvalue, hcount⟩ :=
    (countIs_iff_of_nil hnil).mp (countIs_of_resolve herased scope severity)
  have hsame := (countOf?_eq_ok_iff.mp hvalue).1
  rw [valueOf?_erase_null hnull, hflat] at hsame
  cases flat? with
  | none => cases hsame
  | some flat =>
    obtain rfl : n = flat.val := by simpa [Json.Value.integer] using hsame
    have hflatZero : flat = 0 := hcount.symm.trans hzero.2
    exact hne (by simp [hflatZero])

/-- A nested map with an entry other than null for a severity gives it one of these. -/
theorem exists_nestedValue?_eq_some {nested : List (String × Option Int)}
    (hsome : namesakes nested severity ≠ []) (hnot : ¬NullOnly nested severity) :
    ∃ name n, (name, some n) ∈ namesakes nested severity ∧
      nestedValue? nested severity = some (some n) := by
  have hany : (namesakes nested severity).any (fun entry ↦ entry.2.isSome) = true := by
    by_contra hnone
    exact hnot ⟨hsome, by simpa using hnone⟩
  obtain ⟨entry, hentry, hvalue⟩ := exists_mem_foremost hsome
  have hfilled := (preferring_sublist _ _).subset hentry
  rw [preferring, if_pos hany] at hfilled
  obtain ⟨hmem, hfilled⟩ := List.mem_filter.mp hfilled
  obtain ⟨name, value⟩ := entry
  obtain ⟨n, rfl⟩ := Option.isSome_iff_exists.mp hfilled
  exact ⟨name, n, hmem, hvalue⟩

/-- A value under a spelling of a severity stands under one of its keys or in the nested map. -/
theorem spelled_iff {value : Json.Value} (hnodup : raw.NestedNodup) :
    raw.Spelled scope severity value ↔
      (∃ key ∈ (Field.vulnerabilities scope severity).spellings,
        Json.lookup raw.members key = some value) ∨
      ∃ entry ∈ namesakes (raw.nested scope) severity, value = valueOfEntry entry.2 := by
  constructor
  · rintro ⟨key | ⟨otherScope, name⟩, hspells, hvalue⟩
    · exact .inl ⟨key, hspells, hvalue⟩
    · obtain ⟨other, heq, -⟩ := id hspells
      cases heq
      obtain ⟨entry, hlookup, rfl⟩ := Option.map_eq_some_iff.mp hvalue
      have hname := decide_eq_true (Spelling.spells_nested_iff.mp hspells)
      exact .inr ⟨(name, entry), List.mem_filter.mpr ⟨Json.mem_of_lookup hlookup, hname⟩, rfl⟩
  · rintro (⟨key, hkey, hvalue⟩ | ⟨entry, hentry, rfl⟩)
    · exact ⟨.key key, hkey, hvalue⟩
    · obtain ⟨hmem, hname⟩ := List.mem_filter.mp hentry
      refine ⟨.nested scope entry.1, Spelling.spells_nested_iff.mpr (of_decide_eq_true hname), ?_⟩
      rw [valueUnder?, Json.lookup_of_mem (hnodup scope) hmem, Option.map_some]

/-- The count of a severity with a value other than null stands under one of its spellings, unless
the nested map has only null for it and no zero stands under its keys. -/
theorem spelled_count_iff (hresolve : raw.resolve source = .ok report) (hnodup : raw.NestedNodup)
    (hrange : ∀ entry ∈ raw.nested scope, ∀ n ∈ entry.2, n ≤ maxInteger)
    (hvalue : ∃ value, raw.Spelled scope severity value ∧ value.isNull = false) :
    raw.Spelled scope severity
        (.integer ((report.input.vulnerabilities scope).get severity).val) ↔
      ¬(NullOnly (raw.nested scope) severity ∧
        ∀ key ∈ (Field.vulnerabilities scope severity).spellings,
          Json.lookup raw.members key ≠ some (.integer 0)) := by
  have hcount := countIs_of_resolve hresolve scope severity
  generalize (report.input.vulnerabilities scope).get severity = count at hcount ⊢
  by_cases hnullOnly : NullOnly (raw.nested scope) severity
  · -- the count is zero, whatever stands under the keys
    obtain ⟨-, rfl⟩ := (countIs_iff_of_nullOnly hnullOnly).mp hcount
    rw [spelled_iff hnodup]
    constructor
    · rintro (⟨key, hkey, hzero⟩ | ⟨entry, hentry, heq⟩) ⟨-, hnone⟩
      · exact hnone key hkey hzero
      · rw [hnullOnly.2 entry hentry] at heq
        cases heq
    · intro hnot
      by_contra hzero
      exact hnot ⟨hnullOnly, fun key hkey hlookup ↦ hzero (.inl ⟨key, hkey, hlookup⟩)⟩
  · rw [iff_true_right fun h ↦ hnullOnly h.1, spelled_iff hnodup]
    by_cases hsome : namesakes (raw.nested scope) severity = []
    · -- the count is that of the keys
      obtain ⟨flat?, hflat, rfl⟩ := (countIs_iff_of_nil hsome).mp hcount
      have hfield := (countOf?_eq_ok_iff.mp hflat).1
      cases flat? with
      | some flat => exact .inl (lookup_of_valueOf? hfield)
      | none =>
        obtain ⟨value, hspelled, hnull⟩ := hvalue
        rcases (spelled_iff hnodup).mp hspelled with ⟨key, hkey, hlookup⟩ | ⟨entry, hentry, -⟩
        · have hnone : raw.valueOf? (.vulnerabilities scope severity) = none := hfield
          rw [valueOf?_eq, List.findSome?_eq_none_iff] at hnone
          have hfiltered := hnone key hkey
          rw [hlookup] at hfiltered
          simp [hnull] at hfiltered
        · rw [hsome] at hentry
          cases hentry
    · -- the count is that of an entry other than null
      obtain ⟨name, n, hentry, hnested⟩ := exists_nestedValue?_eq_some hsome hnullOnly
      obtain ⟨flat?, -, hinteger⟩ := hcount
      rw [hnested] at hinteger
      have hle := hrange (name, some n) (List.mem_of_mem_filter hentry) n rfl
      have hval : n = count.val := (countOfInteger_eq_ok_iff hle).mp hinteger
      exact .inr ⟨(name, some n), hentry, by rw [← hval]; rfl⟩

/-- Where a report is resolved, a null among the spellings of a count can be erased without a
difference unless it hides a count. A count with a value other than null is one of the values under
its spellings, unless its nested map has only null for it and no zero stands under its keys. -/
theorem resolve_erase_null_iff (severity : Severity) (hresolve : raw.resolve source = .ok report)
    (hnodup : raw.NestedNodup)
    (hrange : ∀ entry ∈ raw.nested scope, ∀ n ∈ entry.2, n ≤ maxInteger) :
    (∀ spelling : Spelling, spelling.Spells (.vulnerabilities scope severity) →
      raw.valueUnder? spelling = some .null →
      ((raw.erase spelling).resolve source = .ok report ↔ ¬raw.Hides scope severity spelling)) ∧
    ((∃ value, raw.Spelled scope severity value ∧ value.isNull = false) →
      (raw.Spelled scope severity
          (.integer ((report.input.vulnerabilities scope).get severity).val) ↔
        ¬(NullOnly (raw.nested scope) severity ∧
          ∀ key ∈ (Field.vulnerabilities scope severity).spellings,
            Json.lookup raw.members key ≠ some (.integer 0)))) := by
  refine ⟨fun spelling hspells hnull ↦ ⟨fun herased hhides ↦ ?_, fun hhides ↦ ?_⟩,
    spelled_count_iff hresolve hnodup hrange⟩
  · exact resolve_erase_ne_of_hides hresolve hnull hhides herased
  · have halike := saysSame_erase_null hnodup hspells hnull hhides
    exact (halike.resolve_eq_ok_iff rfl source report).mpr hresolve

private def harmlessNode : RawReport :=
  ⟨[("name", .string "a"), ("version", .string "1"), ("directVulnsMedium_score", .null),
    ("directVulnsModerate_count", .integer 2)], [("MEDIUM", none), ("moderate", some 4)], [], []⟩

private theorem nestedNodup_harmlessNode : harmlessNode.NestedNodup := fun
  | .direct => by decide
  | .indirect => by decide

/-- The null beside another entry can be erased, and the count is that of the other entry. -/
theorem resolve_erase_null_iff_harmless :
    harmlessNode.NestedNodup ∧
    (∀ entry ∈ harmlessNode.nested .direct, ∀ n ∈ entry.2, n ≤ maxInteger) ∧
    ∃ report, harmlessNode.resolve "r.json" = .ok report ∧
      (harmlessNode.erase (.nested .direct "MEDIUM")).resolve "r.json" = .ok report ∧
      harmlessNode.Spelled .direct .medium
        (.integer ((report.input.vulnerabilities .direct).get .medium).val) := by
  have hrange : ∀ entry ∈ harmlessNode.nested .direct, ∀ n ∈ entry.2, n ≤ maxInteger := by decide
  obtain ⟨report, hreport⟩ : ∃ report, harmlessNode.resolve "r.json" = .ok report :=
    fault?_eq_none_iff.mp (Option.isNone_iff_eq_none.mp (by decide +kernel))
  have hnamesakes : namesakes (harmlessNode.nested .direct) .medium =
      [("MEDIUM", none), ("moderate", some 4)] := by
    decide +kernel
  have hspells : (Spelling.nested .direct "MEDIUM").Spells (.vulnerabilities .direct .medium) :=
    Spelling.spells_nested_iff.mpr (by decide)
  obtain ⟨herase, hspelled⟩ :=
    resolve_erase_null_iff .medium hreport nestedNodup_harmlessNode hrange
  refine ⟨nestedNodup_harmlessNode, hrange, report, hreport, (herase _ hspells rfl).mpr ?_,
    (hspelled ⟨.integer 4, ?_, rfl⟩).mpr ?_⟩
  · rintro ⟨name, -, honly, -⟩
    rw [hnamesakes] at honly
    cases honly
  · exact ⟨.nested .direct "moderate", Spelling.spells_nested_iff.mpr (by decide), rfl⟩
  · rintro ⟨⟨-, hnull⟩, -⟩
    rw [hnamesakes] at hnull
    cases hnull ("moderate", some 4) (by simp)

private def hidingNode : RawReport :=
  ⟨[("name", .string "a"), ("version", .string "1"), ("directVulnsHigh_score", .integer 3)],
    [("high", none)], [], []⟩

/-- The null in the nested map of this report hides three vulnerabilities. -/
theorem not_resolve_erase_null_hiding :
    (Spelling.nested .direct "high").Spells (.vulnerabilities .direct .high) ∧
    hidingNode.valueUnder? (.nested .direct "high") = some .null ∧
    hidingNode.valueUnder? (.key "directVulnsHigh_score") = some (.integer 3) ∧
    (hidingNode.resolve "r.json").toOption.map (·.input.direct) = some ⟨0, 0, 0, 0⟩ ∧
    ((hidingNode.erase (.nested .direct "high")).resolve "r.json").toOption.map (·.input.direct) =
      some ⟨0, .clamp 3, 0, 0⟩ := by
  refine ⟨Spelling.spells_nested_iff.mpr (by decide), rfl, rfl, ?_, ?_⟩
  · decide +kernel
  · decide +kernel

end Resolved

end RawReport

end PackageRisk
