import PackageRisk.Proofs.Report.Document
import PackageRisk.Proofs.Report.FirstFault

/-!
# Where the numbers of a report come from

Every count of a report is an integer that stands in the object of its node under a spelling of the
field, or the default. No document gives a freshness that is not finite: every number that is read
is finite, and the integers are small.
-/

namespace PackageRisk

open Fallible

namespace RawReport

/-- An integer stands in the object of a report as the value of a field: under a key of its own, or
in the nested map of a scope under a name of the severity. -/
inductive Carries (members : Json.Members) : Field → Int → Prop
  | key {field : Field} {key : String} {n : Int} (spelling : key ∈ field.spellings)
      (value : Json.lookup members key = some (.integer n)) : Carries members field n
  | nested {scope : Scope} {severity : Severity} {entries : Json.Members} {name : String} {n : Int}
      (map : Json.lookup members (countsKey scope) = some (.object entries))
      (names : Severity.ofName? name = some severity)
      (value : Json.lookup entries name = some (.integer n)) :
      Carries members (.vulnerabilities scope severity) n

/-- What a nested map gives a severity is the value of an entry with a name of the severity. -/
theorem mem_of_chosen? {entries : List NestedEntry} {severity : Severity} {value : Option Int}
    (h : chosen? entries severity = some value) :
    ∃ entry ∈ entries, entry.severity = severity ∧ entry.value = value := by
  unfold chosen? at h
  obtain ⟨entry, hbest, rfl⟩ := Option.map_eq_some_iff.mp h
  have hmine : entry ∈ entries.filter fun entry ↦ entry.severity = severity := by
    simp only [Option.orElse_eq_orElse, Option.orElse_eq_or, Option.or_eq_some_iff] at hbest
    rcases hbest with hfind | ⟨-, hfind | ⟨-, hhead⟩⟩
    · exact List.mem_of_find?_eq_some hfind
    · exact List.mem_of_find?_eq_some hfind
    · exact List.mem_of_mem_head? hhead
  obtain ⟨hmem, hseverity⟩ := List.mem_filter.mp hmine
  exact ⟨entry, hmem, of_decide_eq_true hseverity, rfl⟩

namespace ReadFrom

variable {members : Json.Members} {raw : RawReport} {source : String} {package : Package}

/-- The number of a field is in range, and so is the freshness. -/
theorem isFinite_of_numberOf? (h : ReadFrom members raw) {number? : Option Binary64}
    (hnumber : raw.numberOf? source .freshness = .ok number?) :
    (number?.getD .zero).isFinite = true := by
  obtain ⟨literal?, hvalue, rfl⟩ := numberOf?_eq_ok_iff.mp hnumber
  cases literal? with
  | none => rfl
  | some literal =>
    obtain ⟨key, -, hlookup⟩ := lookup_of_valueOf? hvalue
    rw [h.members_eq] at hlookup
    obtain ⟨-, -, hmembers⟩ := h.numbers
    obtain ⟨hown, -, -⟩ := hmembers _ (Json.mem_of_lookup hlookup)
    have hrange := hown literal rfl
    cases literal with
    | float x => exact hrange
    | integer n =>
      have hle : n.natAbs ≤ 2 ^ 64 := by
        obtain ⟨hlow, hhigh⟩ := hrange
        omega
      exact Binary64.isFinite_of_units_le (by decide) (Binary64.units_ofNat_le hle)

/-- A count of a field is an integer of the object. -/
theorem carries_of_countOf? (h : ReadFrom members raw) {field : Field} {count : Count}
    (hcount : raw.countOf? source package field = .ok (some count)) :
    count.val ≤ 2 ^ 63 - 1 ∧ Carries members field count.val := by
  obtain ⟨hvalue, hmax⟩ := countOf?_eq_ok_iff.mp hcount
  have hle : (count.val : Int) ≤ maxInteger := hmax count rfl
  obtain ⟨key, hkey, hlookup⟩ := lookup_of_valueOf? hvalue
  rw [h.members_eq] at hlookup
  unfold maxInteger at hle
  exact ⟨by omega, .key hkey hlookup⟩

/-- The integers of a nested map are integers of the object, and none is too large. -/
theorem carries_of_nested (h : ReadFrom members raw) {scope : Scope} {severity : Severity}
    {name : String} {n : Int} (hentry : (name, some n) ∈ raw.nested scope)
    (hname : Severity.ofName? name = some severity) :
    n ≤ maxInteger ∧ Carries members (.vulnerabilities scope severity) n := by
  refine ⟨h.le_maxInteger hentry, ?_⟩
  obtain ⟨entries, hmap, hvalue⟩ := mem_entriesOf ((h.nested_perm scope).mem_iff.mp hentry)
  exact .nested hmap hname hvalue

/-- A vulnerability count is an integer of the object or zero. -/
theorem carries_of_vulnerabilityCounts (h : ReadFrom members raw) {scope : Scope}
    {counts : VulnerabilityCounts}
    (hcounts : raw.vulnerabilityCounts source package scope = .ok counts)
    (severity : Severity) :
    (counts.get severity).val ≤ 2 ^ 63 - 1 ∧ (counts.get severity = 0 ∨
      Carries members (.vulnerabilities scope severity) (counts.get severity).val) := by
  obtain ⟨entries, hentries, hall⟩ := vulnerabilityCounts_eq_ok_iff.mp hcounts
  obtain ⟨count?, hflat, hchosen⟩ := hall severity
  split at hchosen
  · rw [hchosen]
    cases count? with
    | none => exact ⟨by decide, .inl rfl⟩
    | some count =>
      obtain ⟨hle, hcarries⟩ := h.carries_of_countOf? hflat
      exact ⟨hle, .inr hcarries⟩
  · rename_i value hvalue
    cases value with
    | none =>
      have hzero := (countOfInteger_eq_ok_iff (by decide)).mp hchosen
      have hcount : counts.get severity = 0 := Count.ext (by simpa using hzero.symm)
      exact ⟨by rw [hcount]; decide, .inl hcount⟩
    | some n =>
      obtain ⟨entry, hentry, hseverity, hn⟩ := mem_of_chosen? hvalue
      obtain ⟨⟨name, value⟩, hmem, hof⟩ := exists_of_mapM_ok hentries hentry
      obtain ⟨named, hname, rfl⟩ := entryOf_eq_ok_iff.mp hof
      subst hseverity hn
      obtain ⟨hle, hcarries⟩ := h.carries_of_nested hmem hname
      have hcount := (countOfInteger_eq_ok_iff hle).mp hchosen
      unfold maxInteger at hle
      exact ⟨by omega, .inr (hcount ▸ hcarries)⟩

/-- No fault of a node is a freshness that is not finite. -/
theorem resolveAlone_ne_notFinite (h : ReadFrom members raw) (owner : Package)
    (freshness : Binary64) : raw.resolveAlone source ≠ .error (.notFinite owner freshness) := by
  have hother : FaultsIn (fun fault ↦ fault ≠ .notFinite owner freshness)
      (raw.resolveAlone source) := by
    apply faults_resolveAlone
    · rintro _ hnone rfl
      cases hnone
    · rintro package - field n ⟨⟩
    · intro package _ number? hnumber hinfinite
      simp [h.isFinite_of_numberOf? hnumber] at hinfinite
  intro hfault
  exact hother _ hfault rfl

end ReadFrom

end RawReport

namespace Report

/-- The count of a field that scores are computed from. -/
def inputCount? (report : Report) : Field → Option Count
  | .allDependencies => some report.input.allDependencies
  | .vulnerabilities scope severity => some ((report.input.vulnerabilities scope).get severity)
  | _ => none

/-- The count of a field that is a detail, if it is there. -/
def detailCount? (report : Report) : Field → Option Count
  | .immediateDependencies => report.details.immediateDependencies
  | .authors => report.details.authors
  | .contributors => report.details.contributors
  | _ => none

/-- The name, the version and the freshness of a report are in order, and its counts are integers of
an object, or zero if a score is computed from them. -/
structure Grounded (members : Json.Members) (report : Report) : Prop where
  name : PackageName.fault? report.package.name = none
  version : PackageVersion.fault? report.package.version = none
  freshness : report.input.freshness.isFinite = true
  input (field : Field) (count : Count) (h : report.inputCount? field = some count) :
    count.val ≤ 2 ^ 63 - 1 ∧ (count = 0 ∨ RawReport.Carries members field count.val)
  detail (field : Field) (count : Count) (h : report.detailCount? field = some count) :
    count.val ≤ 2 ^ 63 - 1 ∧ RawReport.Carries members field count.val

/-- The dependencies of a report do not matter for where its own numbers come from. -/
theorem grounded_alone {members : Json.Members} {report : Report}
    (h : Grounded members report.alone) : Grounded members report :=
  ⟨h.name, h.version, h.freshness, h.input, h.detail⟩

private theorem grounded_of_resolveAlone {members : Json.Members} {raw : RawReport}
    {source : String} {report : Report}
    (hread : RawReport.ReadFrom members raw) (h : raw.resolveAlone source = .ok report) :
    Grounded members report := by
  have hresolves := RawReport.resolveAlone_eq_ok_iff.mp h
  refine ⟨report.package.name_faultless, report.package.version_faultless, report.input.finite,
    ?_, ?_⟩
  · intro field count hcount
    cases field <;> simp only [inputCount?, reduceCtorEq, Option.some.injEq] at hcount
    · obtain ⟨count?, hall, heq⟩ := hresolves.allDependencies
      subst hcount
      rw [heq]
      cases count? with
      | none => exact ⟨by decide, .inl rfl⟩
      | some count =>
        obtain ⟨hle, hcarries⟩ := hread.carries_of_countOf? hall
        exact ⟨hle, .inr hcarries⟩
    · subst hcount
      exact hread.carries_of_vulnerabilityCounts (hresolves.vulnerabilities _) _
  · intro field count hcount
    cases field <;> simp only [detailCount?, reduceCtorEq] at hcount
    · exact hread.carries_of_countOf? (hcount ▸ hresolves.immediateDependencies)
    · exact hread.carries_of_countOf? (hcount ▸ hresolves.authors)
    · exact hread.carries_of_countOf? (hcount ▸ hresolves.contributors)

/-- Every node of a report is grounded in the object at its place. -/
theorem grounded_of_resolve {members : Json.Members} {raw : RawReport} {source : String}
    {report : Report} (hread : RawReport.ReadFrom members raw)
    (h : raw.resolve source = .ok report) {path : List Nat}
    {node : Report} (hnode : report.at? path = some node) :
    ∃ own, descend RawReport.dependencyObjects path members = some own ∧ Grounded own node := by
  have hgives := RawReport.gives_of_resolve path h
  rw [hnode] at hgives
  cases hraw : raw.at? path with
  | none =>
    rw [hraw] at hgives
    cases hgives
  | some rawNode =>
    rw [hraw] at hgives
    cases hgives with
    | some hgives =>
      obtain ⟨own, hown, hreadNode⟩ := hread.at? path hraw
      rw [RawReport.Gives, RawReport.resolve_alone] at hgives
      exact ⟨own, hown, grounded_alone (grounded_of_resolveAlone hreadNode hgives.2)⟩

/-- No document is refused because a freshness is not finite. -/
theorem ofDocument_ne_notFinite (document source : String) (order : RawReport.EntryOrder)
    (owner : Package) (freshness : Binary64) :
    ofDocument document source order ≠ .error (.notFinite owner freshness) := by
  intro h
  rcases bind_eq_error_iff.mp h with h | ⟨raw, hread, h⟩
  · obtain ⟨_, -, h⟩ := mapError_eq_error_iff.mp h
    cases h
  · obtain ⟨members, -, hreadFrom⟩ :=
      RawReport.exists_readFrom (mapError_eq_ok_iff.mp hread) (order.reorders raw)
    rw [← fault?_eq_some_iff, RawReport.fault?_resolve] at h
    obtain ⟨node, hnode, hfault⟩ := List.exists_of_findSome?_eq_some h
    rw [fault?_eq_some_iff, RawReport.resolve_alone] at hfault
    obtain ⟨path, hpath⟩ := RawReport.exists_at?_of_mem_nodes _ node hnode
    obtain ⟨own, -, hreadNode⟩ := hreadFrom.at? path hpath
    exact hreadNode.resolveAlone_ne_notFinite owner freshness hfault

/-- Whatever document is accepted, in whatever order of its nested maps, every node of its report
has a faultless name and version, a finite freshness, and counts below `2 ^ 63` that its own object
carries as integers, under a spelling of the field, unless they are the default. Integers are read
from digits alone and are what these spell, and no document at all is refused for a freshness that
is not finite. -/
theorem parse_sound (document source : String) (order : RawReport.EntryOrder) :
    (∀ report, parse document source order = .ok report →
      ∃ members, Json.read document = .ok (.object members) ∧
        ∀ path node, report.at? path = some node →
          ∃ own, descend RawReport.dependencyObjects path members = some own ∧
            Grounded own node) ∧
    (∀ negative text rest n, Json.readNumber negative text = .ok (.integer n, rest) →
      ∃ digits, Json.WholeLiteral text digits rest ∧ n = Json.integerOfDigits negative digits) ∧
    ∀ owner freshness, ofDocument document source order ≠ .error (.notFinite owner freshness) := by
  refine ⟨?_, ?_, ofDocument_ne_notFinite document source order⟩
  · intro report h
    obtain ⟨raw, hread, hresolve⟩ := bind_eq_ok_iff.mp (mapError_eq_ok_iff.mp h)
    obtain ⟨members, hdocument, hreadFrom⟩ :=
      RawReport.exists_readFrom (mapError_eq_ok_iff.mp hread) (order.reorders raw)
    exact ⟨members, hdocument, fun path node hnode ↦
      grounded_of_resolve hreadFrom hresolve hnode⟩
  · intro negative text rest n h
    exact Json.integer_of_readNumber h

private def nestedDocument : String :=
  "\x7b\"name\":\"a\",\"version\":\"1\",\"dependencies\":[" ++
    "\x7b\"name\":\"b\",\"version\":\"2\",\"directVulnerabilityCounts\":\x7b\"HIGH\":4\x7d\x7d]\x7d"

/-- The four vulnerabilities of the dependency stand in its own object. -/
theorem parse_sound_nested :
    ∃ report node members own, parse nestedDocument "r.json" = .ok report ∧
      report.at? [0] = some node ∧ node.input.direct.high.val = 4 ∧
      Json.read nestedDocument = .ok (.object members) ∧
      descend RawReport.dependencyObjects [0] members = some own ∧ Grounded own node := by
  have hparsed : ∃ report, parse nestedDocument "r.json" = .ok report :=
    fault?_eq_none_iff.mp (Option.isNone_iff_eq_none.mp (by decide +kernel))
  obtain ⟨report, hreport⟩ := hparsed
  have hhigh : (parse nestedDocument "r.json").toOption.bind
      (fun report ↦ (report.at? [0]).map (·.input.direct.high.val)) = some 4 := by decide +kernel
  rw [hreport] at hhigh
  obtain ⟨node, hnode, hfour⟩ := Option.map_eq_some_iff.mp hhigh
  obtain ⟨members, hmembers, hall⟩ := (parse_sound nestedDocument "r.json" .byKey).1 report hreport
  obtain ⟨own, hown, hgrounded⟩ := hall [0] node hnode
  exact ⟨report, node, members, own, hreport, hnode, hfour, hmembers, hown, hgrounded⟩

end Report

end PackageRisk
