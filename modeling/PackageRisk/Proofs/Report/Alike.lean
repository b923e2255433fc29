import PackageRisk.Proofs.Report.FirstFault
import PackageRisk.Proofs.Report.NestedCounts

/-!
# Raw reports that resolve alike

Resolving looks at a raw report through the values of its fields and through what its nested maps
give each severity. Where two raw reports agree on these, and their dependencies resolve alike, they
are resolved to the same report or both refused.
-/

namespace PackageRisk

open Fallible

namespace RawReport

/-- Two raw reports that are resolved to the same report, if to any. -/
def ResolvesAlike (a b : RawReport) : Prop :=
  ∀ source report, a.resolve source = .ok report ↔ b.resolve source = .ok report

/-- Two raw reports that resolving cannot tell apart, apart from their dependencies. -/
structure SaysSame (a b : RawReport) : Prop where
  value (field : Field) (h : ∀ scope severity, field ≠ .vulnerabilities scope severity) :
    a.valueOf? field = b.valueOf? field
  named (scope : Scope) : AllNamed (a.nested scope) ↔ AllNamed (b.nested scope)
  counts (source : String) (package : Package) (scope : Scope) (severity : Severity)
    (count : Count) :
    a.CountIs source package scope severity count ↔ b.CountIs source package scope severity count

/-- Functions that agree on the items of a list find the same first result. -/
theorem findSome?_congr_of_mem {α β : Type} {f g : α → Option β} {items : List α}
    (h : ∀ item ∈ items, f item = g item) : items.findSome? f = items.findSome? g := by
  induction items with
  | nil => rfl
  | cons first rest ih =>
    obtain ⟨hfirst, hrest⟩ := List.forall_mem_cons.mp h
    rw [List.findSome?_cons, List.findSome?_cons, hfirst, ih hrest]

/-- A field has the same value where its keys have the same values, apart from null. -/
theorem valueOf?_congr {a b : RawReport} {field : Field}
    (h : ∀ key ∈ field.spellings,
      (Json.lookup a.members key).filter (fun value ↦ !value.isNull) =
        (Json.lookup b.members key).filter fun value ↦ !value.isNull) :
    a.valueOf? field = b.valueOf? field := by
  rw [valueOf?_eq, valueOf?_eq]
  exact findSome?_congr_of_mem h

/-- The count of a severity is the same where its field has the same value and the nested maps give
it the same. -/
theorem countIs_congr {a b : RawReport} {scope : Scope} {severity : Severity}
    (hvalue : a.valueOf? (.vulnerabilities scope severity) =
      b.valueOf? (.vulnerabilities scope severity))
    (hnested : nestedValue? (a.nested scope) severity = nestedValue? (b.nested scope) severity)
    (source : String) (package : Package) (count : Count) :
    a.CountIs source package scope severity count ↔
      b.CountIs source package scope severity count := by
  unfold CountIs
  simp only [countOf?_eq_ok_iff, hvalue, hnested]

namespace SaysSame

variable {a b : RawReport}

private theorem symm (h : SaysSame a b) : SaysSame b a :=
  ⟨fun field hfield ↦ (h.value field hfield).symm, fun scope ↦ (h.named scope).symm,
    fun source package scope severity count ↦ (h.counts source package scope severity count).symm⟩

private theorem resolves (h : SaysSame a b) {source : String} {report : Report}
    (ha : Resolves source a report) : Resolves source b report := by
  have htext {field : Field} {text? : Option String}
      (hfield : ∀ scope severity, field ≠ .vulnerabilities scope severity)
      (ha : a.textOf? source field = .ok text?) : b.textOf? source field = .ok text? := by
    rw [textOf?_eq_ok_iff] at ha ⊢
    rw [← h.value field hfield, ha]
  have hcount {package : Package} {field : Field} {count? : Option Count}
      (hfield : ∀ scope severity, field ≠ .vulnerabilities scope severity)
      (ha : a.countOf? source package field = .ok count?) :
      b.countOf? source package field = .ok count? := by
    rw [countOf?_eq_ok_iff] at ha ⊢
    rw [← h.value field hfield]
    exact ha
  have hnumber {number? : Option Binary64} (ha : a.numberOf? source .freshness = .ok number?) :
      b.numberOf? source .freshness = .ok number? := by
    rw [numberOf?_eq_ok_iff] at ha ⊢
    rw [← h.value .freshness (by simp)]
    exact ha
  refine ⟨htext (by simp) ha.name, htext (by simp) ha.version, fun scope ↦ ?_, ?_, ?_,
    htext (by simp) ha.scoringDate, htext (by simp) ha.releaseDate, hcount (by simp) ha.authors,
    hcount (by simp) ha.contributors, hcount (by simp) ha.immediateDependencies, ha.dependencies⟩
  · have hcounts := ha.vulnerabilities scope
    rw [vulnerabilityCounts_eq_ok_iff_countIs] at hcounts ⊢
    exact ⟨(h.named scope).mp hcounts.1,
      fun severity ↦ (h.counts source _ scope severity _).mp (hcounts.2 severity)⟩
  · obtain ⟨count?, hall, heq⟩ := ha.allDependencies
    exact ⟨count?, hcount (by simp) hall, heq⟩
  · obtain ⟨number?, hfreshness, heq⟩ := ha.freshness
    exact ⟨number?, hnumber hfreshness, heq⟩

end SaysSame

/-- Every raw report says the same as itself. -/
theorem SaysSame.refl (raw : RawReport) : SaysSame raw raw :=
  ⟨fun _ _ ↦ rfl, fun _ ↦ Iff.rfl, fun _ _ _ _ _ ↦ Iff.rfl⟩

/-- Raw reports that resolve alike one by one are resolved to the same reports. -/
theorem resolveAll_congr {raws others : List RawReport}
    (h : List.Forall₂ ResolvesAlike raws others) (source : String) (reports : List Report) :
    resolveAll source raws = .ok reports ↔ resolveAll source others = .ok reports := by
  induction h generalizing reports with
  | nil => rfl
  | cons hfirst _ ih =>
    rw [resolveAll, resolveAll]
    simp only [bind_eq_ok_iff, hfirst _ _, ih]

/-- Raw reports that say the same resolve alike if their dependencies do. -/
theorem SaysSame.resolvesAlike {a b : RawReport} (h : SaysSame a b)
    (hdependencies : List.Forall₂ ResolvesAlike a.dependencies b.dependencies) :
    ResolvesAlike a b := by
  intro source report
  have halone (root : Report) :
      a.resolveAlone source = .ok root ↔ b.resolveAlone source = .ok root := by
    rw [resolveAlone_eq_ok_iff, resolveAlone_eq_ok_iff]
    exact ⟨h.resolves, h.symm.resolves⟩
  simp only [resolve_eq, bind_eq_ok_iff, halone, resolveAll_congr hdependencies]

/-- Every tree resolves as itself does. -/
theorem ResolvesAlike.refl (raw : RawReport) : ResolvesAlike raw raw :=
  fun _ _ ↦ Iff.rfl

/-- Raw reports that say the same resolve alike, with the same dependencies. -/
theorem SaysSame.resolve_eq_ok_iff {a b : RawReport} (h : SaysSame a b)
    (hdependencies : a.dependencies = b.dependencies) : ResolvesAlike a b := by
  apply h.resolvesAlike
  rw [hdependencies]
  exact List.forall₂_same.mpr fun raw _ ↦ .refl raw

end RawReport

end PackageRisk
