import PackageRisk.Proofs.Report.NullCounts

/-!
# The precedence of spellings

Which of several spellings gives the count of a severity. The nested map comes before the keys of
the severity. In the nested map an entry under the severity's own name comes before one under the
other name of medium; the keys come in the order in which they are listed. Null gives nothing. What
stands under the spellings of another severity or of another scope does not matter.
-/

namespace PackageRisk

open Fallible

namespace RawReport

/-- A nested map gives a severity a number under a name: the severity's own name, up to case and the
blanks around it, or the other name of medium where every entry under its own name is null. -/
def GivenNested (nested : List (String × Option Int)) (severity : Severity) (name : String)
    (n : Int) : Prop :=
  (name, some n) ∈ nested ∧
    (Severity.foldName name = severity.name ∨
      severity = .medium ∧ Severity.foldName name = "moderate" ∧
        ∀ entry ∈ nested, Severity.foldName entry.1 = severity.name → entry.2 = none)

/-- The keys of the count of a severity in a scope, in the order in which they decide. -/
def countKeys : Scope → Severity → List String
  | .direct, .critical =>
    ["directVulnsCritical_score", "directVulnsCritical_count", "direct-vulns-critical"]
  | .direct, .high => ["directVulnsHigh_score", "directVulnsHigh_count", "direct-vulns-high"]
  | .direct, .medium =>
    ["directVulnsMedium_score", "directVulnsMedium_count", "direct-vulns-medium",
      "directVulnsModerate_score", "directVulnsModerate_count", "direct-vulns-moderate"]
  | .direct, .low => ["directVulnsLow_score", "directVulnsLow_count", "direct-vulns-low"]
  | .indirect, .critical =>
    ["indirectVulnsCritical_score", "indirectVulnsCritical_count", "indirect-vulns-critical"]
  | .indirect, .high =>
    ["indirectVulnsHigh_score", "indirectVulnsHigh_count", "indirect-vulns-high"]
  | .indirect, .medium =>
    ["indirectVulnsMedium_score", "indirectVulnsMedium_count", "indirect-vulns-medium",
      "indirectVulnsModerate_score", "indirectVulnsModerate_count", "indirect-vulns-moderate"]
  | .indirect, .low => ["indirectVulnsLow_score", "indirectVulnsLow_count", "indirect-vulns-low"]

/-- The first of some keys with a value other than null has this value. -/
def FirstOf (members : Json.Members) (keys : List String) (value : Json.Value) : Prop :=
  ∃ before key after, keys = before ++ key :: after ∧ Json.lookup members key = some value ∧
    value.isNull = false ∧
    ∀ earlier ∈ before, ∀ other, Json.lookup members earlier = some other → other.isNull = true

/-- Two raw reports differ at most in what stands under the spellings of one severity in one
scope. -/
structure AlikeBut (raw other : RawReport) (scope : Scope) (severity : Severity) : Prop where
  members (key : String) (h : key ∉ (Field.vulnerabilities scope severity).spellings) :
    Json.lookup raw.members key = Json.lookup other.members key
  nested : (raw.nested scope).filter (fun entry ↦ Severity.ofName? entry.1 ≠ some severity) =
    (other.nested scope).filter fun entry ↦ Severity.ofName? entry.1 ≠ some severity
  elsewhere (another : Scope) (h : another ≠ scope) : raw.nested another = other.nested another

/-- Two raw reports differ at most in what stands under the spellings of the severities in one
scope, and in the nested map of this scope. -/
structure AlikeOutside (raw other : RawReport) (scope : Scope) : Prop where
  members (key : String) (h : ∀ severity, key ∉ (Field.vulnerabilities scope severity).spellings) :
    Json.lookup raw.members key = Json.lookup other.members key
  nested (another : Scope) (h : another ≠ scope) : raw.nested another = other.nested another

/-! ### The value that comes first -/

/-- The keys of a count are the spellings of its field. -/
theorem spellings_eq_countKeys (scope : Scope) (severity : Severity) :
    (Field.vulnerabilities scope severity).spellings = countKeys scope severity := by
  cases scope <;> cases severity <;> rfl

/-- An entry that is foremost among entries not all of which are null gives the severity its
number. -/
theorem givenNested_of_mem_foremost {nested : List (String × Option Int)} {severity : Severity}
    {entry : String × Option Int}
    (hany : ∃ other ∈ namesakes nested severity, other.2 ≠ none)
    (h : entry ∈ foremost nested severity) :
    ∃ n, entry.2 = some n ∧ GivenNested nested severity entry.1 n := by
  have hfilled : preferring (fun entry ↦ entry.2.isSome) (namesakes nested severity) =
      (namesakes nested severity).filter fun entry ↦ entry.2.isSome := by
    obtain ⟨other, hother, hvalue⟩ := hany
    exact preferring_eq_filter ⟨other, hother, Option.isSome_iff_ne_none.mpr hvalue⟩
  have hmem := (preferring_sublist _ _).subset h
  rw [hfilled, List.mem_filter] at hmem
  obtain ⟨hnamesake, hsome⟩ := hmem
  obtain ⟨n, hn⟩ := Option.isSome_iff_exists.mp hsome
  obtain ⟨hnested, hname⟩ := List.mem_filter.mp hnamesake
  refine ⟨n, hn, by rwa [← hn], ?_⟩
  refine (Severity.ofName?_eq_some_iff.mp (of_decide_eq_true hname)).imp_right ?_
  rintro ⟨rfl, hmoderate⟩
  refine ⟨rfl, hmoderate, fun other hother hown ↦ ?_⟩
  -- a number under the own name would be foremost instead
  by_contra hvalue
  have hotherFilled : other ∈ preferring (fun entry ↦ entry.2.isSome)
      (namesakes nested .medium) := by
    rw [hfilled, List.mem_filter]
    refine ⟨List.mem_filter.mpr ⟨hother, ?_⟩, Option.isSome_iff_ne_none.mpr hvalue⟩
    exact decide_eq_true (Severity.ofName?_eq_some_iff.mpr (.inl hown))
  have hotherOwn : (!Severity.medium.isAlias other.1) = true := by simp [Severity.isAlias, hown]
  have hentryOwn : (!Severity.medium.isAlias entry.1) = true := by
    have hown : ∃ other ∈ preferring (fun entry ↦ entry.2.isSome) (namesakes nested .medium),
        (!Severity.medium.isAlias other.1) = true := ⟨other, hotherFilled, hotherOwn⟩
    rw [foremost, preferring_eq_filter hown] at h
    exact (List.mem_filter.mp h).2
  simp [Severity.isAlias, hmoderate, Severity.name] at hentryOwn

/-- A field has the first value other than null under its keys. -/
theorem valueOf?_eq_some_iff {raw : RawReport} {field : Field} {value : Json.Value} :
    raw.valueOf? field = some value ↔ FirstOf raw.members field.spellings value := by
  rw [valueOf?_eq, List.findSome?_eq_some_iff]
  simp only [FirstOf, Option.filter_eq_some_iff, Option.filter_eq_none_iff, Bool.not_eq_true',
    Bool.not_eq_false, and_assoc]

private theorem valueOf?_eq_none_iff {raw : RawReport} {field : Field} :
    raw.valueOf? field = none ↔ ∀ key ∈ field.spellings, ∀ value,
      Json.lookup raw.members key = some value → value.isNull = true := by
  rw [valueOf?_eq, List.findSome?_eq_none_iff]
  simp only [Option.filter_eq_none_iff, Bool.not_eq_true', Bool.not_eq_false]

/-- A severity has one count at most. -/
theorem CountIs.unique {raw : RawReport} {source : String} {package : Package} {scope : Scope}
    {severity : Severity}
    {count other : Count} (h : raw.CountIs source package scope severity count)
    (hother : raw.CountIs source package scope severity other) : count = other := by
  obtain ⟨flat?, hflat, hcount⟩ := h
  obtain ⟨_, hflatOther, hcountOther⟩ := hother
  obtain rfl := Except.ok.inj (hflat.symm.trans hflatOther)
  cases hvalue : nestedValue? (raw.nested scope) severity with
  | none =>
    rw [hvalue] at hcount hcountOther
    exact hcount.trans hcountOther.symm
  | some value =>
    rw [hvalue] at hcount hcountOther
    exact Except.ok.inj (hcount.symm.trans hcountOther)

/-! ### What does not matter -/

section Alike

variable {raw other : RawReport} {source : String} {scope : Scope} {severity : Severity}

/-- What differs under the spellings of one severity makes no difference to the field of another. -/
theorem AlikeBut.valueOf?_eq (h : AlikeBut raw other scope severity) {field : Field}
    (hne : field ≠ .vulnerabilities scope severity) :
    raw.valueOf? field = other.valueOf? field := by
  refine valueOf?_congr fun key hkey ↦ ?_
  have hown : key ∉ (Field.vulnerabilities scope severity).spellings := fun hother ↦
    hne (@Spelling.field_unique (.key key) _ _ hkey hother)
  rw [h.members key hown]

private theorem AlikeBut.namesakes_eq (h : AlikeBut raw other scope severity) {another : Scope}
    {otherSeverity : Severity}
    (hne : Field.vulnerabilities another otherSeverity ≠ .vulnerabilities scope severity) :
    namesakes (raw.nested another) otherSeverity =
      namesakes (other.nested another) otherSeverity := by
  by_cases hscope : another = scope
  · subst hscope
    have hsub (nested : List (String × Option Int)) :
        namesakes nested otherSeverity =
          namesakes (nested.filter fun entry ↦ Severity.ofName? entry.1 ≠ some severity)
            otherSeverity := by
      rw [namesakes, namesakes, List.filter_filter]
      refine List.filter_congr fun entry _ ↦ ?_
      by_cases hname : Severity.ofName? entry.1 = some otherSeverity
      · have hdifferent : otherSeverity ≠ severity := fun heq ↦ hne (heq ▸ rfl)
        simp [hname, hdifferent]
      · simp [hname]
    rw [hsub (raw.nested another), h.nested, ← hsub]
  · rw [h.elsewhere another hscope]

/-- What differs under the spellings of one severity makes no difference to the count of another. -/
theorem AlikeBut.countIs_iff (h : AlikeBut raw other scope severity) {another : Scope}
    {otherSeverity : Severity}
    (hne : Field.vulnerabilities another otherSeverity ≠ .vulnerabilities scope severity)
    (package : Package) (count : Count) :
    raw.CountIs source package another otherSeverity count ↔
      other.CountIs source package another otherSeverity count := by
  refine countIs_congr (h.valueOf?_eq hne) ?_ source package count
  rw [nestedValue?, nestedValue?, h.namesakes_eq hne]

/-- What stands under the spellings of one scope makes no difference to the counts of another, nor
to their fault. -/
theorem AlikeOutside.vulnerabilityCounts_eq (h : AlikeOutside raw other scope) {another : Scope}
    (hne : another ≠ scope) (package : Package) :
    raw.vulnerabilityCounts source package another =
      other.vulnerabilityCounts source package another := by
  have hfind (severity : Severity) : raw.find? (.vulnerabilities another severity) =
      other.find? (.vulnerabilities another severity) := by
    refine findSome?_congr_of_mem fun key hkey ↦ ?_
    rw [h.members key fun ownSeverity hown ↦ ?_]
    have heq := @Spelling.field_unique (.key key) _ _ hkey hown
    exact hne (Field.vulnerabilities.inj heq).1
  have hflat : raw.flatCounts source package another =
      other.flatCounts source package another := by
    simp only [flatCounts, countOf?, integerOf?, hfind]
  rw [vulnerabilityCounts, vulnerabilityCounts, hflat, h.nested another hne]

end Alike

/-! ### Counts and their spellings -/

section Counts

variable {raw : RawReport} {source : String} {package : Package} {scope : Scope}
  {severity : Severity} {count : Count}

/-- A number in the nested map comes before everything under the keys. -/
theorem CountIs.givenNested (h : raw.CountIs source package scope severity count)
    (hrange : ∀ entry ∈ raw.nested scope, ∀ n ∈ entry.2, n ≤ maxInteger)
    (hany : ∃ entry ∈ namesakes (raw.nested scope) severity, entry.2 ≠ none) :
    ∃ name, GivenNested (raw.nested scope) severity name count.val := by
  have hsome : namesakes (raw.nested scope) severity ≠ [] := by
    obtain ⟨entry, hentry, -⟩ := hany
    exact List.ne_nil_of_mem hentry
  obtain ⟨entry, hforemost, hvalue⟩ := exists_mem_foremost hsome
  obtain ⟨n, hn, hgiven⟩ := givenNested_of_mem_foremost hany hforemost
  obtain ⟨flat?, -, hcount⟩ := h
  rw [hvalue, hn] at hcount
  have hval : n = count.val :=
    (countOfInteger_eq_ok_iff (hrange _ hgiven.1 n rfl)).mp hcount
  exact ⟨entry.1, hval ▸ hgiven⟩

/-- Without an entry in the nested map, the first key with a value other than null decides. -/
theorem CountIs.eq_of_firstOf (h : raw.CountIs source package scope severity count)
    (hnone : namesakes (raw.nested scope) severity = []) {value : Json.Value}
    (hfirst : FirstOf raw.members (countKeys scope severity) value) :
    value = .integer count.val := by
  obtain ⟨flat?, hflat, rfl⟩ := (countIs_iff_of_nil hnone).mp h
  have hvalue := (countOf?_eq_ok_iff.mp hflat).1
  rw [← spellings_eq_countKeys] at hfirst
  rw [valueOf?_eq_some_iff.mpr hfirst] at hvalue
  cases flat? with
  | none => cases hvalue
  | some flat => exact Option.some.inj hvalue

/-- Where every spelling of a severity is missing or null, it counts zero. -/
theorem CountIs.eq_zero (h : raw.CountIs source package scope severity count)
    (hnested : ∀ entry ∈ namesakes (raw.nested scope) severity, entry.2 = none)
    (hkeys : ∀ key ∈ countKeys scope severity, ∀ value,
      Json.lookup raw.members key = some value → value.isNull = true) : count = 0 := by
  rw [← spellings_eq_countKeys] at hkeys
  by_cases hnone : namesakes (raw.nested scope) severity = []
  · obtain ⟨flat?, hflat, rfl⟩ := (countIs_iff_of_nil hnone).mp h
    have hvalue := (countOf?_eq_ok_iff.mp hflat).1
    rw [valueOf?_eq_none_iff.mpr hkeys] at hvalue
    cases flat? with
    | none => rfl
    | some flat => cases hvalue
  · exact ((countIs_iff_of_nullOnly ⟨hnone, hnested⟩).mp h).2

end Counts

/-- The count of a severity, where the counts of its scope are resolved, in whichever order the
nested map is gone through. A number in the nested map decides, and a number there under the own
name of the severity before one under another name. Without an entry in the nested map, the first
key with a value other than null decides. If neither gives a value other than null, the count is
zero. What stands under the spellings of another severity makes no difference to the count, and what
stands under those of another scope none to the counts or their fault. -/
theorem precedence_of_vulnerabilityCounts {raw : RawReport} {source : String} {package : Package}
    {scope : Scope} {counts : VulnerabilityCounts} (severity : Severity)
    (hcounts : raw.vulnerabilityCounts source package scope = .ok counts)
    (hrange : ∀ entry ∈ raw.nested scope, ∀ n ∈ entry.2, n ≤ maxInteger) :
    ((∃ entry ∈ namesakes (raw.nested scope) severity, entry.2 ≠ none) →
      ∃ name, GivenNested (raw.nested scope) severity name (counts.get severity).val) ∧
    (namesakes (raw.nested scope) severity = [] → ∀ value,
      FirstOf raw.members (countKeys scope severity) value →
        value = .integer (counts.get severity).val) ∧
    ((∀ entry ∈ namesakes (raw.nested scope) severity, entry.2 = none) →
      (∀ key ∈ countKeys scope severity, ∀ value,
        Json.lookup raw.members key = some value → value.isNull = true) →
      counts.get severity = 0) ∧
    (∀ (other : RawReport) (elsewhere : Scope) (another : Severity) (others : VulnerabilityCounts),
      (elsewhere, another) ≠ (scope, severity) → AlikeBut raw other elsewhere another →
      other.vulnerabilityCounts source package scope = .ok others →
      others.get severity = counts.get severity) ∧
    ∀ (other : RawReport) (elsewhere : Scope), elsewhere ≠ scope →
      AlikeOutside raw other elsewhere →
      other.vulnerabilityCounts source package scope =
        raw.vulnerabilityCounts source package scope := by
  have hcount := (vulnerabilityCounts_eq_ok_iff_countIs.mp hcounts).2 severity
  refine ⟨hcount.givenNested hrange, fun hnone value ↦ hcount.eq_of_firstOf hnone, hcount.eq_zero,
    fun other elsewhere another others hne halike hothers ↦ ?_,
    fun other elsewhere hne halike ↦ ?_⟩
  · have hfield : Field.vulnerabilities scope severity ≠ .vulnerabilities elsewhere another := by
      rintro heq
      cases heq
      exact hne rfl
    have hother := (vulnerabilityCounts_eq_ok_iff_countIs.mp hothers).2 severity
    exact ((halike.countIs_iff hfield package _).mpr hother).unique hcount
  · exact (halike.vulnerabilityCounts_eq hne.symm package).symm

private def rankedPackage : Package := ⟨"ranked", "7.2", by decide +kernel, by decide +kernel⟩

/-- Medium is given in three ways in the nested map, high by two keys, low by null only. -/
private def rankedNode : RawReport :=
  ⟨[("directVulnsMedium_score", .integer 9), ("direct-vulns-high", .integer 2),
      ("directVulnsHigh_score", .null), ("directVulnsHigh_count", .integer 5)],
    [("moderate", some 4), (" MEDIUM", none), ("Medium", some 7), ("low", none)], [], []⟩

/-- The same report with two more counts for critical. -/
private def criticalNode : RawReport :=
  { rankedNode with
    members := ("directVulnsCritical_count", .integer 3) :: rankedNode.members
    directCounts := ("CRITICAL", some 8) :: rankedNode.directCounts }

/-- The same report with indirect counts that are refused. -/
private def indirectNode : RawReport :=
  { rankedNode with
    members := ("indirectVulnsHigh_score", .string "x") :: rankedNode.members
    indirectCounts := [("severe", some 8)] }

private def rankedCounts : VulnerabilityCounts := ⟨0, .clamp 5, .clamp 7, 0⟩

private theorem alikeBut_criticalNode : AlikeBut rankedNode criticalNode .direct .critical where
  members key h := by
    have hne : "directVulnsCritical_count" ≠ key := fun heq ↦ h (heq ▸ by decide)
    rw [criticalNode, Json.lookup_cons, if_neg hne, Option.or_none]
  nested := by decide +kernel
  elsewhere another h := by
    cases another with
    | direct => exact absurd rfl h
    | indirect => rfl

private theorem alikeOutside_indirectNode : AlikeOutside rankedNode indirectNode .indirect where
  members key h := by
    have hne : "indirectVulnsHigh_score" ≠ key := fun heq ↦ h .high (heq ▸ by decide)
    rw [indirectNode, Json.lookup_cons, if_neg hne, Option.or_none]
  nested another h := by
    cases another with
    | direct => rfl
    | indirect => exact absurd rfl h

/-- The counts of the report: medium by its own name in the nested map, high by the second key, and
no low ones. Neither another critical count nor faulty indirect counts change this. -/
theorem precedence_of_vulnerabilityCounts_ranked :
    rankedNode.vulnerabilityCounts "r.json" rankedPackage .direct = .ok rankedCounts ∧
    (∀ entry ∈ rankedNode.nested .direct, ∀ n ∈ entry.2, n ≤ maxInteger) ∧
    (∃ name, GivenNested (rankedNode.nested .direct) .medium name (rankedCounts.get .medium).val) ∧
    Json.Value.integer 5 = .integer (rankedCounts.get .high).val ∧
    rankedCounts.get .low = 0 ∧
    (∃ others, criticalNode.vulnerabilityCounts "r.json" rankedPackage .direct = .ok others ∧
      others ≠ rankedCounts ∧ others.get .medium = rankedCounts.get .medium) ∧
    indirectNode.vulnerabilityCounts "r.json" rankedPackage .direct =
      rankedNode.vulnerabilityCounts "r.json" rankedPackage .direct := by
  have hcounts : rankedNode.vulnerabilityCounts "r.json" rankedPackage .direct =
      .ok rankedCounts := rfl
  have hcritical : criticalNode.vulnerabilityCounts "r.json" rankedPackage .direct =
      .ok { rankedCounts with critical := .clamp 8 } := rfl
  have hrange : ∀ entry ∈ rankedNode.nested .direct, ∀ n ∈ entry.2, n ≤ maxInteger := by decide
  have hfirst : FirstOf rankedNode.members (countKeys .direct .high)
      (.integer 5) :=
    ⟨["directVulnsHigh_score"], "directVulnsHigh_count", ["direct-vulns-high"], rfl, rfl, rfl,
      fun earlier hearlier other hother ↦ by
        obtain rfl := List.mem_singleton.mp hearlier
        obtain rfl : Json.Value.null = other := Option.some.inj hother
        rfl⟩
  have hlowNested : ∀ entry ∈ namesakes (rankedNode.nested .direct) .low, entry.2 = none := by
    decide +kernel
  have hlowKeys : ∀ key ∈ countKeys .direct .low, ∀ value,
      Json.lookup rankedNode.members key = some value → value.isNull = true := by
    intro key hkey value hvalue
    have hnone : ∀ key ∈ countKeys .direct .low,
        (Json.lookup rankedNode.members key).isNone = true := by
      decide +kernel
    rw [Option.isNone_iff_eq_none.mp (hnone key hkey)] at hvalue
    cases hvalue
  obtain ⟨hmedium, -, -, hothers, hindirect⟩ :=
    precedence_of_vulnerabilityCounts .medium hcounts hrange
  obtain ⟨-, hhigh, -⟩ := precedence_of_vulnerabilityCounts .high hcounts hrange
  obtain ⟨-, -, hlow, -⟩ := precedence_of_vulnerabilityCounts .low hcounts hrange
  refine ⟨hcounts, hrange, hmedium ⟨("Medium", some 7), by decide +kernel, by simp⟩,
    hhigh (by decide +kernel) _ hfirst, hlow hlowNested hlowKeys,
    ⟨_, hcritical, by decide, ?_⟩, ?_⟩
  · exact hothers _ .direct .critical _ (by decide) alikeBut_criticalNode hcritical
  · exact hindirect _ .indirect (by decide) alikeOutside_indirectNode

end RawReport

end PackageRisk
