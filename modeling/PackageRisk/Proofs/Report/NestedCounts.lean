import PackageRisk.Proofs.Json.Binding
import PackageRisk.Proofs.Report.Resolved

/-!
# Counts in nested maps

Of a nested map, only the entries whose keys name a severity matter for its count. The count of a
severity is then a matter of the value of its field and of these entries alone.
-/

namespace PackageRisk

open Fallible

namespace Severity

/-- A text names a severity if it is the name of the severity, up to case and the blanks around it;
medium is also named moderate. -/
theorem ofName?_eq_some_iff {text : String} {severity : Severity} :
    ofName? text = some severity ↔
      foldName text = severity.name ∨ severity = .medium ∧ foldName text = "moderate" := by
  unfold ofName?
  dsimp only
  generalize foldName text = folded
  constructor
  · intro h
    split at h
    · cases h
      exact .inl ‹_›
    · split at h
      · cases h
        exact .inl ‹_›
      · split at h
        · rename_i hmedium
          cases h
          exact hmedium.imp id fun h ↦ ⟨rfl, h⟩
        · split at h <;> cases h
          exact .inl ‹_›
  · rintro (rfl | ⟨rfl, rfl⟩)
    · cases severity <;> decide
    · decide

end Severity

namespace RawReport

variable {source : String}

/-- The entries of a nested map whose keys name a severity. -/
def namesakes (nested : List (String × Option Int)) (severity : Severity) :
    List (String × Option Int) :=
  nested.filter fun entry ↦ Severity.ofName? entry.1 = some severity

/-- All keys of a nested map name severities. -/
def AllNamed (nested : List (String × Option Int)) : Prop :=
  ∀ entry ∈ nested, ∃ severity, Severity.ofName? entry.1 = some severity

/-- An entry of a nested map for a severity that its key names. -/
def namesakeOf (severity : Severity) (entry : String × Option Int) : NestedEntry :=
  ⟨severity, severity.isAlias entry.1, entry.2⟩

/-- The value that a nested map gives a severity. -/
def nestedValue? (nested : List (String × Option Int)) (severity : Severity) :
    Option (Option Int) :=
  chosen? ((namesakes nested severity).map (namesakeOf severity)) severity

/-- The entries are those of a nested map all of whose keys name severities. -/
theorem exists_mapM_entryOf_iff (nested : List (String × Option Int)) :
    (∃ entries, nested.mapM (entryOf source) = .ok entries) ↔ AllNamed nested := by
  constructor
  · rintro ⟨entries, h⟩ ⟨name, value⟩ hmem
    have hall := mapM_eq_ok_iff.mp h
    clear h
    induction hall with
    | nil => cases hmem
    | cons hfirst _ ih =>
      rcases List.mem_cons.mp hmem with rfl | hmem
      · obtain ⟨severity, hname, -⟩ := entryOf_eq_ok_iff.mp hfirst
        exact ⟨severity, hname⟩
      · exact ih hmem
  · intro h
    induction nested with
    | nil => exact ⟨[], rfl⟩
    | cons entry nested ih =>
      obtain ⟨⟨severity, hname⟩, hrest⟩ := List.forall_mem_cons.mp h
      obtain ⟨entries, hentries⟩ := ih hrest
      exact ⟨_, mapM_eq_ok_iff.mpr
        (.cons (entryOf_eq_ok_iff.mpr ⟨severity, hname, rfl⟩) (mapM_eq_ok_iff.mp hentries))⟩

/-- The entries for a severity come from its namesakes. -/
theorem filter_entries {nested : List (String × Option Int)} {entries : List NestedEntry}
    (h : nested.mapM (entryOf source) = .ok entries) (severity : Severity) :
    entries.filter (fun entry ↦ entry.severity = severity) =
      (namesakes nested severity).map (namesakeOf severity) := by
  have hall := mapM_eq_ok_iff.mp h
  clear h
  induction hall with
  | nil => rfl
  | @cons entry _ _ _ hfirst _ ih =>
    obtain ⟨named, hname, rfl⟩ := entryOf_eq_ok_iff.mp hfirst
    by_cases heq : named = severity
    · subst heq
      simpa [namesakes, hname, namesakeOf] using ih
    · simpa [namesakes, hname, heq] using ih

/-- What is chosen for a severity comes from the entries for it. -/
theorem chosen?_congr {entries others : List NestedEntry} {severity : Severity}
    (h : entries.filter (fun entry ↦ entry.severity = severity) =
      others.filter (fun entry ↦ entry.severity = severity)) :
    chosen? entries severity = chosen? others severity := by
  unfold chosen?
  rw [h]

/-- The entry chosen among the entries of a nested map is the value that the map has for the
severity. -/
theorem chosen?_entries {nested : List (String × Option Int)} {entries : List NestedEntry}
    (h : nested.mapM (entryOf source) = .ok entries) (severity : Severity) :
    chosen? entries severity = nestedValue? nested severity := by
  apply chosen?_congr
  have hall : ∀ entry ∈ (namesakes nested severity).map (namesakeOf severity),
      decide (entry.severity = severity) = true := by
    intro entry hentry
    obtain ⟨source, -, rfl⟩ := List.mem_map.mp hentry
    exact decide_eq_true rfl
  rw [List.filter_eq_self.mpr hall, filter_entries h]

/-- A nested map without a key of a severity has no value for it. -/
theorem nestedValue?_eq_none {nested : List (String × Option Int)} {severity : Severity}
    (h : namesakes nested severity = []) : nestedValue? nested severity = none := by
  rw [nestedValue?, h]
  rfl

/-- The only namesake of a severity gives its value. -/
theorem nestedValue?_eq_some {nested : List (String × Option Int)} {severity : Severity}
    {entry : String × Option Int} (h : namesakes nested severity = [entry]) :
    nestedValue? nested severity = some entry.2 := by
  obtain ⟨name, value⟩ := entry
  rw [nestedValue?, h]
  cases value <;> cases hAlias : severity.isAlias name <;> simp [chosen?, namesakeOf, hAlias]

/-- The count of a severity: that of the nested map if it names the severity, and else that of the
keys of its own. A count under a key of its own has to be in order in any case. -/
def CountIs (raw : RawReport) (source : String) (package : Package) (scope : Scope)
    (severity : Severity) (count : Count) : Prop :=
  ∃ flat?, raw.countOf? source package (.vulnerabilities scope severity) = .ok flat? ∧
    match nestedValue? (raw.nested scope) severity with
    | none => count = flat?.getD 0
    | some value =>
      countOfInteger package (.vulnerabilities scope severity) (value.getD 0) = .ok count

/-- The counts of a scope are resolved if its nested map has no unknown key and each severity has a
count. -/
theorem vulnerabilityCounts_eq_ok_iff_countIs {raw : RawReport} {package : Package} {scope : Scope}
    {counts : VulnerabilityCounts} :
    raw.vulnerabilityCounts source package scope = .ok counts ↔ AllNamed (raw.nested scope) ∧
      ∀ severity, raw.CountIs source package scope severity (counts.get severity) := by
  rw [vulnerabilityCounts_eq_ok_iff]
  constructor
  · rintro ⟨entries, hentries, h⟩
    simp only [chosen?_entries hentries] at h
    exact ⟨(exists_mapM_entryOf_iff _).mp ⟨entries, hentries⟩, h⟩
  · rintro ⟨hnamed, h⟩
    obtain ⟨entries, hentries⟩ :
        ∃ entries, (raw.nested scope).mapM (entryOf source) = .ok entries :=
      (exists_mapM_entryOf_iff _).mpr hnamed
    simp only [CountIs, ← chosen?_entries hentries] at h
    exact ⟨entries, hentries, h⟩

end RawReport

end PackageRisk
