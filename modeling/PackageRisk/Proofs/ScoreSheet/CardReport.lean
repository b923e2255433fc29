import PackageRisk.Proofs.Report.Document
import PackageRisk.Proofs.Report.FirstFault
import PackageRisk.Proofs.Report.TreeOrder
import PackageRisk.Proofs.ScoreSheet.Card

/-!
# Score cards as reports

The object of a score card is a report document: each of its keys is either a spelling of a field or
has no meaning there, and its counts stand in nested maps under the names of the severities.
-/

namespace PackageRisk

open Fallible

namespace PackageCard

/-- The vulnerabilities of a scope. -/
def vulnerabilities (card : PackageCard) : Scope → VulnerabilityCounts
  | .direct => card.direct
  | .indirect => card.indirect

/-- What a report document gives a field that has the members of a score card. -/
def fieldValue? (card : PackageCard) : Field → Option Json.Value
  | .name => some (.string card.name)
  | .version => some (.string card.version)
  | .freshness => some (.number (.float card.freshness))
  | .allDependencies => some (ScoreSheet.countValue card.allDependencies)
  | .immediateDependencies => some (ScoreSheet.countValue card.immediateDependencies)
  | .authors => card.authors.map ScoreSheet.countValue
  | .contributors => card.contributors.map ScoreSheet.countValue
  | .scoringDate => card.scoringDate.map .string
  | .releaseDate => card.releaseDate.map .string
  | .vulnerabilities _ _ => none

/-- No count of a score card is too large for a report document. -/
structure Bounded (card : PackageCard) : Prop where
  allDependencies : (card.allDependencies.val : Int) ≤ RawReport.maxInteger
  immediateDependencies : (card.immediateDependencies.val : Int) ≤ RawReport.maxInteger
  vulnerabilities (scope : Scope) (severity : Severity) :
    (((card.vulnerabilities scope).get severity).val : Int) ≤ RawReport.maxInteger
  authors : ∀ count ∈ card.authors, (count.val : Int) ≤ RawReport.maxInteger
  contributors : ∀ count ∈ card.contributors, (count.val : Int) ≤ RawReport.maxInteger

end PackageCard

/-- A score card shows all facts and details of a report, which is without dependencies. -/
structure Report.ShownOn (card : PackageCard) (report : Report) : Prop where
  name : card.name = report.package.name
  version : card.version = report.package.version
  freshness : card.freshness = report.input.freshness
  allDependencies : card.allDependencies = report.input.allDependencies
  vulnerabilities (scope : Scope) :
    card.vulnerabilities scope = report.input.vulnerabilities scope
  authors : card.authors = report.details.authors
  contributors : card.contributors = report.details.contributors
  scoringDate : card.scoringDate = report.details.scoringDate
  releaseDate : card.releaseDate = report.details.releaseDate
  immediateDependencies : some card.immediateDependencies = report.details.immediateDependencies
  dependencies : report.dependencies = []

namespace ScoreSheet

open RawReport

variable {card : PackageCard} {raw : RawReport}

/-- Every key of a score card is without a place of its own in report documents, but for the nested
maps. -/
theorem place_cardEntries (card : PackageCard) : ∀ entry ∈ cardEntries card,
    Place.ofKey entry.1 = .anything ∨ ∃ scope, entry.1 = countsKey scope ∧
      entry.2 = some (countsValue (card.vulnerabilities scope)) := by
  simp only [cardEntries, List.forall_mem_cons]
  and_intros
  iterate 9 exact .inl (by decide)
  · exact .inr ⟨.direct, rfl, rfl⟩
  · exact .inr ⟨.indirect, rfl, rfl⟩
  iterate 5 exact .inl (by decide)
  · intro _ h
    cases h

/-- A score card is read by the fields that its keys spell. -/
theorem valueOf?_card (h : raw.members = present (cardEntries card)) (field : Field) :
    raw.valueOf? field = card.fieldValue? field := by
  rw [valueOf?_eq, h]
  simp only [lookup_card]
  obtain ⟨_, _, _, _, _, _, _, _, _, _, _, authors, contributors, scoringDate, releaseDate, _⟩ :=
    card
  cases field with
  | authors => cases authors <;> rfl
  | contributors => cases contributors <;> rfl
  | scoringDate => cases scoringDate <;> rfl
  | releaseDate => cases releaseDate <;> rfl
  | vulnerabilities scope severity => cases scope <;> cases severity <;> rfl
  | _ => rfl

/-- A nested map of a score card has one entry for each severity, in the order of the names. -/
theorem entriesOf_countsValue (counts : VulnerabilityCounts) :
    entriesOf (some (countsValue counts)) =
      [Severity.critical, .high, .low, .medium].map fun severity ↦
        (severity.name, some ((counts.get severity).val : Int)) := by
  simp +decide only [entriesOf, countsValue, countValue, Json.Value.integer, Json.sortByKey,
    Json.insertByKey, Severity.all, List.map_cons, List.map_nil, List.foldl_cons, List.foldl_nil,
    if_true, if_false]

private theorem ofName?_name (severity : Severity) :
    Severity.ofName? severity.name = some severity := by
  cases severity <;> decide

/-- The keys of a nested map of a score card name severities. -/
theorem allNamed_countsValue (counts : VulnerabilityCounts) :
    AllNamed (entriesOf (some (countsValue counts))) := by
  rw [entriesOf_countsValue]
  intro entry hentry
  obtain ⟨severity, -, rfl⟩ := List.mem_map.mp hentry
  exact ⟨severity, ofName?_name severity⟩

/-- A nested map of a score card gives every severity its count, in whatever order. -/
theorem nestedValue?_countsValue {counts : VulnerabilityCounts}
    {nested : List (String × Option Int)}
    (h : nested.Perm (entriesOf (some (countsValue counts)))) (severity : Severity) :
    nestedValue? nested severity = some (some ((counts.get severity).val : Int)) := by
  have hnamesakes : namesakes (entriesOf (some (countsValue counts))) severity =
      [(severity.name, some ((counts.get severity).val : Int))] := by
    rw [entriesOf_countsValue, namesakes, List.filter_map]
    simp only [Function.comp_def, ofName?_name, Option.some.injEq]
    cases severity <;> rfl
  have hone : namesakes nested severity =
      [(severity.name, some ((counts.get severity).val : Int))] :=
    List.perm_singleton.mp (hnamesakes ▸ h.filter _)
  rw [nestedValue?_eq_some hone]

/-- The nested maps of a score card are admitted as such. -/
theorem admits_countsValue (hbounded : card.Bounded) (scope : Scope) :
    schema.Admits .counts (countsValue (card.vulnerabilities scope)) := by
  refine Json.admits_object_iff.mpr ⟨rfl, fun member hmember ↦ ?_, ?_, ?_⟩
  · obtain ⟨severity, -, rfl⟩ := List.mem_map.mp hmember
    refine (Json.admits_scalar_iff rfl).mpr ?_
    exact if_pos (hbounded.vulnerabilities scope severity)
  · simp
  · rw [List.filter_eq_nil_iff.mpr]
    · exact List.nodup_nil
    · intro key _
      simp [schema]

/-- A score card is admitted as a report document. -/
theorem admits_card (hbounded : card.Bounded) :
    schema.Admits .report (.object (present (cardEntries card))) := by
  refine Json.admits_object_iff.mpr ⟨rfl, fun member hmember ↦ ?_, by simp, ?_⟩
  · change schema.Admits (Place.ofKey member.1) member.2
    rcases place_cardEntries card _ (mem_present_iff.mp hmember) with hplace | ⟨scope, hkey, hvalue⟩
    · rw [hplace]
      exact admits_anything member.2
    · rw [show member.1 = countsKey scope from hkey, ofKey_countsKey, Option.some.inj hvalue]
      exact admits_countsValue hbounded scope
  · exact ((sublist_keys _).nodup (nodup_cardEntries card)).filter _

/-- A report that a score card shows is what the card is resolved to. -/
theorem resolves_card (h : ReadFrom (present (cardEntries card)) raw) (hbounded : card.Bounded)
    {report : Report} (hshown : report.ShownOn card) (source : String) :
    Resolves source raw report := by
  have hvalue := valueOf?_card h.members_eq
  have htext {field : Field} {text? : Option String}
      (hfield : card.fieldValue? field = text?.map .string) :
      raw.textOf? source field = .ok text? := by
    rw [textOf?_eq_ok_iff, hvalue, hfield]
  have hcount {field : Field} {count? : Option Count}
      (hfield : card.fieldValue? field = count?.map countValue)
      (hmax : ∀ count ∈ count?, (count.val : Int) ≤ maxInteger) :
      raw.countOf? source report.package field = .ok count? :=
    countOf?_eq_ok_iff.mpr ⟨(hvalue field).trans hfield, hmax⟩
  have hnested (scope : Scope) :
      (raw.nested scope).Perm (entriesOf (some (countsValue (card.vulnerabilities scope)))) := by
    have hperm := h.nested_perm scope
    rw [lookup_card] at hperm
    cases scope <;> exact hperm
  refine ⟨htext ?_, htext ?_, fun scope ↦ ?_, ⟨some card.allDependencies, hcount rfl ?_, ?_⟩,
    ⟨some card.freshness, ?_, ?_⟩, htext ?_, htext ?_, hcount ?_ ?_, hcount ?_ ?_, hcount ?_ ?_,
    hshown.dependencies⟩
  · rw [← hshown.name]
    rfl
  · rw [← hshown.version]
    rfl
  · refine vulnerabilityCounts_eq_ok_iff_countIs.mpr ⟨?_, fun severity ↦ ⟨none, hcount rfl ?_, ?_⟩⟩
    · exact (allNamed_perm (hnested scope)).mpr (allNamed_countsValue _)
    · simp
    · rw [nestedValue?_countsValue (hnested scope), ← hshown.vulnerabilities]
      exact (countOfInteger_eq_ok_iff (hbounded.vulnerabilities scope severity)).mpr rfl
  · simpa using hbounded.allDependencies
  · exact hshown.allDependencies.symm
  · exact numberOf?_eq_ok_iff.mpr ⟨some (.float card.freshness), hvalue .freshness, rfl⟩
  · exact hshown.freshness.symm
  · rw [← hshown.scoringDate]
    rfl
  · rw [← hshown.releaseDate]
    rfl
  · rw [← hshown.authors]
    rfl
  · rw [← hshown.authors]
    exact hbounded.authors
  · rw [← hshown.contributors]
    rfl
  · rw [← hshown.contributors]
    exact hbounded.contributors
  · rw [← hshown.immediateDependencies]
    rfl
  · rw [← hshown.immediateDependencies]
    simpa using hbounded.immediateDependencies

/-- A document with the object of a score card is parsed to the report that the card shows, in
whatever order of its nested maps. -/
theorem parse_card {document : String} (hread : Json.read document = .ok (packageValue card))
    (hbounded : card.Bounded) {report : Report} (hshown : report.ShownOn card) (source : String)
    (order : EntryOrder) : Report.parse document source order = .ok report := by
  have hraw : RawReport.read document = .ok (ofValue (.object (present (cardEntries card)))) :=
    read_eq_ok_iff.mpr ⟨_, packageValue_eq card ▸ hread, admits_card hbounded, rfl⟩
  have hfrom : ReadFrom (present (cardEntries card))
      (order.arrange (ofValue (.object (present (cardEntries card))))) :=
    ⟨order.reorders _, admits_card hbounded,
      Json.numbers_of_readDocument (packageValue_eq card ▸ hread)⟩
  have hnone : dependencyObjects (present (cardEntries card)) = [] := by
    rw [dependencyObjects, lookup_card]
    rfl
  have hdependencies := hfrom.dependencies
  rw [hnone, List.forall₂_nil_left_iff] at hdependencies
  have halone : report.alone = report := by
    obtain ⟨_, _, _, _⟩ := report
    cases hshown.dependencies
    rfl
  rw [Report.parse_eq_ok_iff_resolve hraw, resolve_eq_ok_iff]
  refine ⟨?_, ?_⟩
  · rw [resolve_alone, halone]
    exact resolveAlone_eq_ok_iff.mpr (resolves_card hfrom hbounded hshown source)
  · rw [hdependencies, hshown.dependencies]
    exact .nil

end ScoreSheet

end PackageRisk
