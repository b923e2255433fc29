import Mathlib.Tactic.Choose
import PackageRisk.Proofs.Fallible
import PackageRisk.Proofs.Report.NestedSort

/-!
# What resolved fields are made of

For every function that resolves a part of a raw report: when it succeeds, and with which result.
Whether a field is resolved, and to what, depends on the value under its preferred spelling only,
not on this spelling.
-/

namespace PackageRisk

open Fallible

/-- The binary64 number of a number in a document. -/
def Json.Number.binary64 : Json.Number → Binary64
  | .integer n => .ofInt n
  | .float x => x

/-- A package is made of the texts that it is given. -/
theorem Package.ofTexts_eq_ok_iff {name version : String} {package : Package} :
    ofTexts name version = .ok package ↔ package.name = name ∧ package.version = version := by
  obtain ⟨packageName, packageVersion, hname, hversion⟩ := package
  unfold ofTexts
  constructor
  · intro h
    split at h
    · cases h
    · split at h <;> cases h
      exact ⟨rfl, rfl⟩
  · rintro ⟨rfl, rfl⟩
    split
    · simp_all
    · split
      · simp_all
      · rfl

/-- The facts of an input with a finite freshness are an input. -/
theorem ScoreInput.ofFacts?_eq_some_iff {freshness : Binary64} {allDependencies : Count}
    {direct indirect : VulnerabilityCounts} {input : ScoreInput} :
    ofFacts? freshness allDependencies direct indirect = some input ↔
      input.freshness = freshness ∧ input.allDependencies = allDependencies ∧
        input.direct = direct ∧ input.indirect = indirect := by
  obtain ⟨inputFreshness, _, _, _, finite⟩ := input
  unfold ofFacts?
  constructor
  · intro h
    split at h <;> cases h
    exact ⟨rfl, rfl, rfl, rfl⟩
  · rintro ⟨rfl, rfl, rfl, rfl⟩
    simp [finite]

namespace VulnerabilityCounts

/-- The counts with a given count for every severity. -/
def ofGet (get : Severity → Count) : VulnerabilityCounts :=
  ⟨get .critical, get .high, get .medium, get .low⟩

@[simp] private theorem get_ofGet (get : Severity → Count) (severity : Severity) :
    (ofGet get).get severity = get severity := by
  cases severity <;> rfl

/-- Going through severities and setting the counts that are found sets each of them once. -/
theorem foldlM_set_eq_ok_iff {ε : Type} (found : Severity → Except ε (Option Count))
    {step : VulnerabilityCounts → Severity → Except ε VulnerabilityCounts}
    (hstep : ∀ counts severity, step counts severity = found severity >>= fun count? ↦
      .ok (count?.elim counts (counts.set severity)))
    {severities : List Severity} (hnodup : severities.Nodup) (init counts : VulnerabilityCounts) :
    severities.foldlM step init = .ok counts ↔ ∀ severity,
      if severity ∈ severities then
        ∃ count?, found severity = .ok count? ∧
          counts.get severity = count?.getD (init.get severity)
      else counts.get severity = init.get severity := by
  induction severities generalizing init with
  | nil =>
    simp only [List.foldlM_nil, List.not_mem_nil, if_false]
    exact ⟨fun h severity ↦ by cases h; rfl, fun h ↦ by rw [ext_get h]; rfl⟩
  | cons first rest ih =>
    obtain ⟨hfirst, hrest⟩ := List.nodup_cons.mp hnodup
    have getD_elim (count? : Option Count) (severity : Severity) :
        (count?.elim init (init.set first)).get severity =
          if severity = first then count?.getD (init.get first) else init.get severity := by
      cases count? <;> simp +contextual
    simp only [List.foldlM_cons, hstep, bind_eq_ok_iff, Except.ok.injEq, ih hrest]
    constructor
    · rintro ⟨set, ⟨count?, hfound, rfl⟩, h⟩ severity
      have hseverity := h severity
      simp only [getD_elim] at hseverity
      by_cases heq : severity = first
      · subst heq
        simp only [hfirst, if_false, if_true] at hseverity
        simpa using ⟨count?, hfound, hseverity⟩
      · simpa [heq] using hseverity
    · intro h
      obtain ⟨count?, hfound, hcount⟩ := by simpa using h first
      refine ⟨_, ⟨count?, hfound, rfl⟩, fun severity ↦ ?_⟩
      simp only [getD_elim]
      by_cases heq : severity = first
      · subst heq
        simpa [hfirst] using hcount
      · simpa [heq] using h severity

end VulnerabilityCounts

private theorem Severity.nodup_all : Severity.all.Nodup := by decide

namespace RawReport

variable {source : String}

/-- The value of a field, whichever spelling it is found under. -/
def valueOf? (raw : RawReport) (field : Field) : Option Json.Value :=
  (raw.find? field).map (·.2)

/-- A field is found under the first of its keys that has a value other than null. -/
theorem find?_eq (raw : RawReport) (field : Field) :
    raw.find? field = field.spellings.findSome? fun key ↦
      ((Json.lookup raw.members key).filter fun value ↦ !value.isNull).map fun value ↦
        (key, value) := by
  unfold find?
  congr 1
  funext key
  cases Json.lookup raw.members key with
  | none => rfl
  | some value => cases hnull : value.isNull <;> simp [hnull, Option.filter]

/-- The value of a field is the first one other than null under its keys. -/
theorem valueOf?_eq (raw : RawReport) (field : Field) :
    raw.valueOf? field = field.spellings.findSome? fun key ↦
      (Json.lookup raw.members key).filter fun value ↦ !value.isNull := by
  rw [valueOf?, find?_eq, List.map_findSome?]
  simp only [Function.comp_def, Option.map_map, Option.map_id']

/-- The value of a field stands under one of its spellings. -/
theorem lookup_of_valueOf? {raw : RawReport} {field : Field} {value : Json.Value}
    (h : raw.valueOf? field = some value) :
    ∃ key ∈ field.spellings, Json.lookup raw.members key = some value := by
  obtain ⟨⟨key, found⟩, hfind, rfl⟩ := Option.map_eq_some_iff.mp h
  obtain ⟨spelling, hspelling, h⟩ := List.exists_of_findSome?_eq_some hfind
  refine ⟨spelling, hspelling, ?_⟩
  split at h
  · cases h
  · split at h <;> cases h
    assumption

/-- A field is a text if its value is one. -/
theorem textOf?_eq_ok_iff {raw : RawReport} {field : Field} {text? : Option String} :
    raw.textOf? source field = .ok text? ↔ raw.valueOf? field = text?.map .string := by
  unfold textOf? valueOf?
  split <;> rename_i h <;> cases text? <;> simp_all

/-- A field is a number if its value is one. -/
theorem numberOf?_eq_ok_iff {raw : RawReport} {field : Field} {number? : Option Binary64} :
    raw.numberOf? source field = .ok number? ↔ ∃ literal? : Option Json.Number,
      raw.valueOf? field = literal?.map .number ∧ number? = literal?.map (·.binary64) := by
  unfold numberOf? valueOf?
  constructor
  · intro h
    split at h <;> rename_i hfind <;> cases h
    · exact ⟨none, by simp [hfind], rfl⟩
    · exact ⟨some (.integer _), by simp [hfind], rfl⟩
    · exact ⟨some (.float _), by simp [hfind], rfl⟩
  · rintro ⟨literal?, hvalue, rfl⟩
    rcases literal? with _ | (n | x)
    · simp_all
    · obtain ⟨key, hfind⟩ := by simpa using hvalue
      rw [hfind]
      rfl
    · obtain ⟨key, hfind⟩ := by simpa using hvalue
      rw [hfind]
      rfl

private theorem integerOf?_eq_ok_iff {raw : RawReport} {field : Field} {n? : Option Int} :
    raw.integerOf? source field = .ok n? ↔
      raw.valueOf? field = n?.map .integer ∧ ∀ n ∈ n?, n ≤ maxInteger := by
  unfold integerOf? valueOf?
  constructor
  · intro h
    split at h
    · rename_i hfind
      cases h
      simp [hfind]
    · rename_i hfind
      split at h <;> cases h
      simpa [hfind, Json.Value.integer]
    · cases h
  · rintro ⟨hvalue, hmax⟩
    cases n? with
    | none => simp_all
    | some n =>
      obtain ⟨key, hfind⟩ := by simpa [Json.Value.integer] using hvalue
      simp [hfind, hmax n rfl]

/-- An integer is a count if it is not negative. -/
theorem countOfInteger_eq_ok_iff {package : Package} {field : Field} {n : Int} {count : Count}
    (hmax : n ≤ maxInteger) : countOfInteger package field n = .ok count ↔ n = count.val := by
  unfold countOfInteger
  have hle : n.toNat ≤ Count.max := by simp only [maxInteger, Count.max] at hmax ⊢; omega
  split
  · simp only [reduceCtorEq, false_iff]
    omega
  · simp only [Except.ok.injEq, Count.ext_iff, Count.val_clamp]
    omega

/-- A field is a count if its value is an integer that is neither negative nor too large. -/
theorem countOf?_eq_ok_iff {raw : RawReport} {package : Package} {field : Field}
    {count? : Option Count} :
    raw.countOf? source package field = .ok count? ↔
      raw.valueOf? field = count?.map (fun count ↦ .integer count.val) ∧
        ∀ count ∈ count?, (count.val : Int) ≤ maxInteger := by
  simp only [countOf?, bind_eq_ok_iff, integerOf?_eq_ok_iff]
  constructor
  · rintro ⟨n?, ⟨hvalue, hmax⟩, h⟩
    cases n? with
    | none =>
      cases h
      exact ⟨hvalue, by simp⟩
    | some n =>
      obtain ⟨count, hcount, h⟩ := bind_eq_ok_iff.mp h
      cases h
      obtain rfl := (countOfInteger_eq_ok_iff (hmax n rfl)).mp hcount
      exact ⟨hvalue, by simpa using hmax⟩
  · rintro ⟨hvalue, hmax⟩
    refine ⟨count?.map fun count ↦ count.val, ⟨?_, ?_⟩, ?_⟩
    · simpa [Function.comp_def] using hvalue
    · simpa using hmax
    · cases count? with
      | none => rfl
      | some count =>
        exact bind_eq_ok_iff.mpr
          ⟨count, (countOfInteger_eq_ok_iff (hmax count rfl)).mpr rfl, rfl⟩

/-- The counts under keys of their own are those of the four fields, zero where there is none. -/
theorem flatCounts_eq_ok_iff {raw : RawReport} {package : Package} {scope : Scope}
    {counts : VulnerabilityCounts} :
    raw.flatCounts source package scope = .ok counts ↔ ∀ severity, ∃ count?,
      raw.countOf? source package (.vulnerabilities scope severity) = .ok count? ∧
        counts.get severity = count?.getD 0 := by
  unfold flatCounts
  rw [VulnerabilityCounts.foldlM_set_eq_ok_iff
    (fun severity ↦ raw.countOf? source package (.vulnerabilities scope severity))
    (fun counts severity ↦ bind_congr fun count? ↦ by cases count? <;> rfl) Severity.nodup_all]
  simp [Severity.mem_all]

/-- An entry of a nested map has to name a severity. -/
theorem entryOf_eq_ok_iff {name : String} {value : Option Int} {entry : NestedEntry} :
    entryOf source (name, value) = .ok entry ↔ ∃ severity, Severity.ofName? name = some severity ∧
      entry = ⟨severity, severity.isAlias name, value⟩ := by
  unfold entryOf
  dsimp only
  split <;> rename_i h
  · simp [h]
  · simp [h, eq_comm]

/-- A nested map replaces the counts of the severities that it names. -/
theorem overrideCounts_eq_ok_iff {package : Package} {scope : Scope}
    {init counts : VulnerabilityCounts} {entries : List NestedEntry} :
    overrideCounts package scope init entries = .ok counts ↔ ∀ severity,
      match chosen? entries severity with
      | none => counts.get severity = init.get severity
      | some value =>
        countOfInteger package (.vulnerabilities scope severity) (value.getD 0) =
          .ok (counts.get severity) := by
  rw [overrideCounts_eq, VulnerabilityCounts.foldlM_set_eq_ok_iff
    (fun severity ↦
      match chosen? entries severity with
      | none => .ok none
      | some value =>
        (countOfInteger package (.vulnerabilities scope severity) (value.getD 0)).map some)
    ?_ Severity.nodup_all]
  · refine forall_congr' fun severity ↦ ?_
    simp only [Severity.mem_all, if_true]
    cases chosen? entries severity with
    | none => simp [eq_comm]
    | some value =>
      dsimp only
      cases countOfInteger package (.vulnerabilities scope severity) (value.getD 0) <;>
        simp [Except.map, eq_comm]
  · intro counts severity
    unfold override
    cases chosen? entries severity with
    | none => rfl
    | some value =>
      dsimp only
      cases countOfInteger package (.vulnerabilities scope severity) (value.getD 0) <;> rfl

/-- The counts of a scope, severity by severity: all keys of the nested map name severities, the
counts under keys of their own are in order, and the nested map has the last word. -/
theorem vulnerabilityCounts_eq_ok_iff {raw : RawReport} {package : Package} {scope : Scope}
    {counts : VulnerabilityCounts} :
    raw.vulnerabilityCounts source package scope = .ok counts ↔ ∃ entries,
      (raw.nested scope).mapM (entryOf source) = .ok entries ∧ ∀ severity, ∃ count?,
        raw.countOf? source package (.vulnerabilities scope severity) = .ok count? ∧
        match chosen? entries severity with
        | none => counts.get severity = count?.getD 0
        | some value =>
          countOfInteger package (.vulnerabilities scope severity) (value.getD 0) =
            .ok (counts.get severity) := by
  simp only [vulnerabilityCounts, bind_eq_ok_iff, flatCounts_eq_ok_iff, overrideCounts_eq_ok_iff]
  constructor
  · rintro ⟨flat, hflat, entries, hentries, h⟩
    refine ⟨entries, hentries, fun severity ↦ ?_⟩
    obtain ⟨count?, hcount, hget⟩ := hflat severity
    refine ⟨count?, hcount, ?_⟩
    rw [← hget]
    exact h severity
  · rintro ⟨entries, hentries, h⟩
    choose count? hcount hchosen using h
    refine ⟨.ofGet fun severity ↦ (count? severity).getD 0, fun severity ↦
      ⟨count? severity, hcount severity, by simp⟩, entries, hentries, fun severity ↦ ?_⟩
    rw [VulnerabilityCounts.get_ofGet]
    exact hchosen severity

/-- A package is resolved from its two texts. -/
theorem packageOf_eq_ok_iff {raw : RawReport} {package : Package} :
    raw.packageOf source = .ok package ↔
      raw.textOf? source .name = .ok (some package.name) ∧
        raw.textOf? source .version = .ok (some package.version) := by
  simp only [packageOf, bind_eq_ok_iff]
  constructor
  · rintro ⟨_ | name, hname, h⟩
    · cases h
    · obtain ⟨_ | version, hversion, h⟩ := bind_eq_ok_iff.mp h
      · cases h
      · obtain ⟨rfl, rfl⟩ := Package.ofTexts_eq_ok_iff.mp (mapError_eq_ok_iff.mp h)
        exact ⟨hname, hversion⟩
  · rintro ⟨hname, hversion⟩
    refine ⟨_, hname, bind_eq_ok_iff.mpr ⟨_, hversion, ?_⟩⟩
    exact mapError_eq_ok_iff.mpr (Package.ofTexts_eq_ok_iff.mpr ⟨rfl, rfl⟩)

/-- A report that a raw report gives by itself, field by field. -/
structure Resolves (source : String) (raw : RawReport) (report : Report) : Prop where
  name : raw.textOf? source .name = .ok (some report.package.name)
  version : raw.textOf? source .version = .ok (some report.package.version)
  vulnerabilities (scope : Scope) :
    raw.vulnerabilityCounts source report.package scope = .ok (report.input.vulnerabilities scope)
  allDependencies : ∃ count?, raw.countOf? source report.package .allDependencies = .ok count? ∧
    report.input.allDependencies = count?.getD 0
  freshness : ∃ number?, raw.numberOf? source .freshness = .ok number? ∧
    report.input.freshness = number?.getD .zero
  scoringDate : raw.textOf? source .scoringDate = .ok report.details.scoringDate
  releaseDate : raw.textOf? source .releaseDate = .ok report.details.releaseDate
  authors : raw.countOf? source report.package .authors = .ok report.details.authors
  contributors : raw.countOf? source report.package .contributors = .ok report.details.contributors
  immediateDependencies :
    raw.countOf? source report.package .immediateDependencies =
      .ok report.details.immediateDependencies
  dependencies : report.dependencies = []

/-- Resolving a raw report by itself succeeds when all of its fields are in order. -/
theorem resolveAlone_eq_ok_iff {raw : RawReport} {report : Report} :
    raw.resolveAlone source = .ok report ↔ Resolves source raw report := by
  constructor
  · intro h
    simp only [resolveAlone, bind_eq_ok_iff] at h
    obtain ⟨package, hpackage, input, hinput, details, hdetails, h⟩ := h
    cases h
    obtain ⟨hname, hversion⟩ := packageOf_eq_ok_iff.mp hpackage
    simp only [inputOf, bind_eq_ok_iff] at hinput
    obtain ⟨direct, hdirect, indirect, hindirect, count?, hcount, number?, hnumber, hinput⟩ :=
      hinput
    split at hinput <;> cases hinput
    rename_i hfacts
    obtain ⟨hfreshness, hall, rfl, rfl⟩ := ScoreInput.ofFacts?_eq_some_iff.mp hfacts
    simp only [detailsOf, bind_eq_ok_iff] at hdetails
    obtain ⟨scoringDate, hscoring, releaseDate, hrelease, authors, hauthors, contributors,
      hcontributors, immediate, himmediate, hdetails⟩ := hdetails
    cases hdetails
    have hvulnerabilities (scope : Scope) : raw.vulnerabilityCounts source package scope =
        .ok (input.vulnerabilities scope) := by
      cases scope
      · exact hdirect
      · exact hindirect
    exact ⟨hname, hversion, hvulnerabilities,
      ⟨count?, hcount, hall⟩, ⟨number?, hnumber, hfreshness⟩, hscoring, hrelease, hauthors,
      hcontributors, himmediate, rfl⟩
  · intro h
    obtain ⟨package, input, details, dependencies⟩ := report
    obtain ⟨count?, hcount, hall⟩ := h.allDependencies
    obtain ⟨number?, hnumber, hfreshness⟩ := h.freshness
    have hfacts : ScoreInput.ofFacts? (number?.getD .zero) (count?.getD 0)
        (input.vulnerabilities .direct) (input.vulnerabilities .indirect) = some input :=
      ScoreInput.ofFacts?_eq_some_iff.mpr ⟨hfreshness, hall, rfl, rfl⟩
    have hinput : raw.inputOf source package = .ok input := by
      simp only [inputOf, bind_eq_ok_iff]
      refine ⟨_, h.vulnerabilities .direct, _, h.vulnerabilities .indirect, count?, hcount,
        number?, hnumber, ?_⟩
      rw [hfacts]
    have hdetails : raw.detailsOf source package = .ok details := by
      simp only [detailsOf, bind_eq_ok_iff]
      exact ⟨_, h.scoringDate, _, h.releaseDate, _, h.authors, _, h.contributors, _,
        h.immediateDependencies, rfl⟩
    obtain rfl : dependencies = [] := h.dependencies
    simp only [resolveAlone, bind_eq_ok_iff]
    exact ⟨package, packageOf_eq_ok_iff.mpr ⟨h.name, h.version⟩, input, hinput, details, hdetails,
      rfl⟩

end RawReport

end PackageRisk
