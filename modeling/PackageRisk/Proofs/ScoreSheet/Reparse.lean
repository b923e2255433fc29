import PackageRisk.OutputFormat
import PackageRisk.Proofs.Assessment.Response
import PackageRisk.Proofs.GradeDistribution
import PackageRisk.Proofs.Report.Grounding
import PackageRisk.Proofs.ScoreSheet.CardReport

/-!
# Parsing a rendered score card

The JSON sheet of a report has an object for the package, and this object is a report document by
itself. Parsing it gives the report again, but for its dependencies: the number of these is told,
and the freshness may have become a neighbouring number. If it has not, the scores are the same
too.
-/

namespace PackageRisk

open Fallible

/-! ### Reading whole sheets -/

namespace ScoreSheet

open Json

section Readable

variable {depth : Nat}

private theorem readable_optional {α : Type} {key : String} {value : α → Value}
    (h : ∀ content, (value content).Readable depth) (content : Option α) :
    ∀ member ∈ optional key value content, member.2.Readable depth := by
  intro member hmember
  obtain ⟨content, -, rfl⟩ := List.mem_map.mp hmember
  exact h content

/-- Imprints can be read two levels deep. -/
theorem readable_imprintValue (imprint : Imprint) :
    (imprintValue imprint).Readable (depth + 2) := by
  refine .object ?_
  simp only [List.forall_mem_cons]
  refine ⟨readable_string _, .object ?_, readable_string _, by simp⟩
  simp only [List.forall_mem_cons]
  exact ⟨readable_string _, readable_string _, by simp⟩

/-- Rows of dependencies can be read one level deep. -/
theorem readable_dependencyValue (row : DependencyRow) :
    (dependencyValue row).Readable (depth + 1) := by
  refine .object ?_
  simp only [List.forall_mem_append, List.forall_mem_cons]
  refine ⟨⟨readable_string _, readable_string _, readable_points _, readable_string _,
    readable_string _, readable_count _, by simp⟩, ?_⟩
  exact readable_optional (fun _ ↦ readable_string _) row.banner

/-- Distributions of counts in range can be read one level deep. -/
theorem readable_distributionValue {buckets : List (String × Nat)}
    (h : ∀ bucket ∈ buckets, bucket.2 < 2 ^ 64) :
    (distributionValue buckets).Readable (depth + 1) := by
  refine .object fun member hmember ↦ ?_
  obtain ⟨⟨grade, n⟩, hbucket, rfl⟩ := List.mem_map.mp hmember
  have hlt : n < 2 ^ 64 := h _ (mem_of_lookup (mem_sortByKey.mp hbucket))
  exact readable_integer ⟨by omega, by omega⟩

/-- Verdicts of the gate can be read one level deep. -/
theorem readable_gateValue (view : GateView) : (gateValue view).Readable (depth + 1) := by
  refine .object ?_
  simp only [List.forall_mem_cons]
  exact ⟨readable_string _, .scalar rfl (fun _ h ↦ by cases h), by simp⟩

/-- A sheet with a finite freshness and moderate numbers is read. -/
theorem readable_toJson {sheet : ScoreSheet} (hfinite : sheet.package.freshness.isFinite = true)
    (hbuckets : ∀ bucket ∈ sheet.distribution, bucket.2 < 2 ^ 64) :
    sheet.toJson.Readable maxDepth := by
  refine .object ?_
  simp only [List.forall_mem_append, List.forall_mem_cons]
  refine ⟨⟨readable_imprintValue _, readable_packageValue hfinite, .array fun item hitem ↦ ?_,
    readable_distributionValue hbuckets, by simp⟩, ?_⟩
  · obtain ⟨row, -, rfl⟩ := List.mem_map.mp hitem
    exact readable_dependencyValue row
  · exact readable_optional readable_gateValue sheet.gate

/-- The object of the package stands under its key. -/
theorem lookup_toJson (sheet : ScoreSheet) :
    ∃ members, sheet.toJson = .object members ∧ ("package", packageValue sheet.package) ∈ members ∧
      lookup members "package" = some (packageValue sheet.package) := by
  refine ⟨_, rfl, by simp, ?_⟩
  rw [lookup_append]
  cases sheet.gate <;> rfl

end Readable

/-- The score card as its text is read. -/
def cardRead (sheet : ScoreSheet) : Value :=
  packageValue { sheet.package with freshness := readBack sheet.package.freshness }

/-- A rendered sheet has its score card under the key of the package, and the text of the card is a
document of its own. -/
theorem read_render (sheet : ScoreSheet) (hfinite : sheet.package.freshness.isFinite = true)
    (hbuckets : ∀ bucket ∈ sheet.distribution, bucket.2 < 2 ^ 64) :
    (∃ members, read (OutputFormat.json.render sheet) = .ok (.object members) ∧
      lookup members "package" = some sheet.cardRead) ∧
    ∃ before body after,
      OutputFormat.json.render sheet = before ++ "\"package\": " ++ body ++ after ∧
        read body = .ok sheet.cardRead := by
  obtain ⟨members, htoJson, hmem, hlookup⟩ := lookup_toJson sheet
  constructor
  · have hread := read_indented (readable_toJson hfinite hbuckets) 0
    rw [htoJson, Value.reread] at hread
    refine ⟨rereadMembers members, ?_, ?_⟩
    · rw [OutputFormat.render, Value.document, htoJson]
      exact hread
    · rw [rereadMembers_eq, lookup_map, hlookup, Option.map_some, reread_packageValue]
      rfl
  · obtain ⟨before, after, heq⟩ := exists_indented_object hmem 0
    refine ⟨String.ofList before, String.ofList ((packageValue sheet.package).indented 1),
      String.ofList after, ?_, ?_⟩
    · rw [OutputFormat.render, Value.document, htoJson, heq]
      have hkey : ("\"package\": ").toList = stringText "package" ++ [':', ' '] := by decide
      rw [← String.toList_inj]
      simp only [String.toList_append, String.toList_ofList, hkey, List.append_assoc]
    · have hcard : (packageValue sheet.package).Readable maxDepth := readable_packageValue hfinite
      rw [read_indented hcard, reread_packageValue]
      rfl

/-- The numbers of a distribution are those of the direct dependencies. -/
theorem lt_of_mem_distribution {report : Report} (hlength : report.dependencies.length < 2 ^ 64)
    (request : Request) (imprint : Imprint) : ∀ bucket ∈
      (ofAssessment imprint (.ofReport request report)).distribution, bucket.2 < 2 ^ 64 := by
  intro bucket hbucket
  obtain ⟨⟨grade, n⟩, hgrade, rfl⟩ := List.mem_map.mp hbucket
  obtain ⟨grade, -, hn⟩ := List.mem_map.mp hgrade
  cases hn
  have hle := GradeDistribution.count_ofGrades_le
    ((Assessment.ofReport request report).dependencies.map (·.score.grade)) grade
  have hsame : (Assessment.ofReport request report).dependencies.length =
      report.dependencies.length := List.length_map ..
  rw [List.length_map, hsame] at hle
  exact Nat.lt_of_le_of_lt hle hlength

end ScoreSheet

/-! ### The report of a score card -/

/-- The same points, grade and banner. -/
structure ScoredPackage.SameVerdict (scored other : ScoredPackage) : Prop where
  total : scored.score.total = other.score.total
  grade : scored.score.grade = other.score.grade
  banner : scored.banner = other.banner

/-- The verdict depends on the score input only. -/
theorem ScoredPackage.sameVerdict_ofReport {report other : Report} (h : report.input = other.input)
    (wantsBreakdown wantsOther : Bool) :
    (ofReport report wantsBreakdown).SameVerdict (ofReport other wantsOther) := by
  constructor
  · simp only [ofReport, Score.compute, h]
  · simp only [ofReport, Score.compute, h]
  · simp only [ofReport, h]

namespace Report

/-- The report that a score card tells: the number of the dependencies in place of the dependencies,
and the freshness as its text is read. -/
def restated (report : Report) : Report where
  package := report.package
  input := { report.input with
    freshness := Json.readBack report.input.freshness
    finite := Json.isFinite_readBack report.input.finite }
  details := { report.details with immediateDependencies := some report.immediateDependencies }
  dependencies := []

/-- The text of a freshness is read as this very freshness. -/
def FreshnessReadsBack (report : Report) : Prop :=
  Json.read (Json.numberStyle.write report.input.freshness) =
    .ok (.number (.float report.input.freshness))

/-- A report has the package, the counts and the details of an assessed one, with the number of the
dependencies in place of the dependencies. If the text of the freshness is read as the same number,
the report also has the freshness and the verdict of the assessed one, whatever is requested. -/
structure Restates (again report : Report) (scored : ScoredPackage) : Prop where
  package : again.package = report.package
  allDependencies : again.input.allDependencies = report.input.allDependencies
  direct : again.input.direct = report.input.direct
  indirect : again.input.indirect = report.input.indirect
  authors : again.details.authors = report.details.authors
  contributors : again.details.contributors = report.details.contributors
  scoringDate : again.details.scoringDate = report.details.scoringDate
  releaseDate : again.details.releaseDate = report.details.releaseDate
  immediateDependencies : again.details.immediateDependencies = some report.immediateDependencies
  dependencies : again.dependencies = []
  freshness (h : report.FreshnessReadsBack) : again.input.freshness = report.input.freshness
  verdict (h : report.FreshnessReadsBack) (request : Request) :
    (Assessment.ofReport request again).package.SameVerdict scored

/-- If the freshness is read back, all facts of the report are. -/
theorem input_restated {report : Report} (h : report.FreshnessReadsBack) :
    report.restated.input = report.input := by
  have hback : Json.readBack report.input.freshness = report.input.freshness := by
    rw [Json.readBack, h]
  obtain ⟨package, ⟨freshness, allDependencies, direct, indirect, finite⟩, details, _⟩ := report
  simp only [restated, ScoreInput.mk.injEq, and_true]
  exact hback

/-- Without dependencies there is nothing to roll up. -/
theorem inputFor_restated (request : Request) (report : Report) :
    Assessment.inputFor request report.restated = report.restated.input := by
  rw [Assessment.inputFor, show report.restated.dependencies.isEmpty = true from rfl,
    Bool.not_true, Bool.and_false, if_neg Bool.false_ne_true]

private theorem restates_restated (report : Report) (wantsBreakdown : Bool) :
    report.restated.Restates report (.ofReport report wantsBreakdown) := by
  refine ⟨rfl, rfl, rfl, rfl, rfl, rfl, rfl, rfl, rfl, rfl, fun h ↦ ?_, fun h request ↦ ?_⟩
  · rw [input_restated h]
  · apply ScoredPackage.sameVerdict_ofReport
    exact (inputFor_restated request report).trans (input_restated h)

/-- The card of a report shows what the card tells, once its own text is read. -/
theorem shownOn_card (report : Report) (wantsBreakdown : Bool) :
    report.restated.ShownOn { (ScoredPackage.ofReport report wantsBreakdown).card with
      freshness := Json.readBack report.input.freshness } := by
  refine ⟨rfl, rfl, rfl, rfl, fun scope ↦ ?_, rfl, rfl, rfl, rfl, rfl, rfl⟩
  cases scope <;> rfl

/-- The counts of the card of a parsed report are those of a document, or few. -/
theorem bounded_card {members : Json.Members} {report : Report} (h : Grounded members report)
    (hlength : report.dependencies.length < 2 ^ 63) (wantsBreakdown : Bool) (freshness : Binary64) :
    PackageCard.Bounded { (ScoredPackage.ofReport report wantsBreakdown).card with freshness } := by
  have hmax {count : Count} (hle : count.val ≤ 2 ^ 63 - 1) :
      (count.val : Int) ≤ RawReport.maxInteger := by
    unfold RawReport.maxInteger
    omega
  refine ⟨hmax (h.input .allDependencies _ rfl).1, hmax ?_, fun scope severity ↦ hmax ?_,
    fun count hcount ↦ hmax (h.detail .authors count hcount).1,
    fun count hcount ↦ hmax (h.detail .contributors count hcount).1⟩
  · change report.immediateDependencies.val ≤ 2 ^ 63 - 1
    unfold immediateDependencies
    cases himmediate : report.details.immediateDependencies with
    | none =>
      rw [Option.getD_none, Count.val_clamp]
      omega
    | some count => exact (h.detail .immediateDependencies count himmediate).1
  · cases scope
    · exact (h.input (.vulnerabilities .direct severity) _ rfl).1
    · exact (h.input (.vulnerabilities .indirect severity) _ rfl).1

/-- The report that is parsed from a document is grounded in it. -/
theorem grounded_of_parse {document source : String} {order : RawReport.EntryOrder}
    {report : Report} (h : parse document source order = .ok report) :
    ∃ members, Grounded members report := by
  obtain ⟨raw, hread, hresolve⟩ := bind_eq_ok_iff.mp (mapError_eq_ok_iff.mp h)
  obtain ⟨members, -, hreadFrom⟩ :=
    RawReport.exists_readFrom (mapError_eq_ok_iff.mp hread) (order.reorders raw)
  have hroot : report.at? [] = some report := rfl
  obtain ⟨own, -, hgrounded⟩ := grounded_of_resolve hreadFrom hresolve hroot
  exact ⟨own, hgrounded⟩

/-- A report that is parsed, assessed without roll-up and rendered is found again in the sheet: the
object under the key of the package is a text of its own in the sheet, and any document with this
object is parsed to a report that restates the first, in whatever order of its nested maps. -/
theorem parse_rendered_package {document source : String} {order : RawReport.EntryOrder}
    {report : Report} (hparse : parse document source order = .ok report)
    (hlength : report.dependencies.length < 2 ^ 63) (request : Request)
    (hstored : request.aggregate = false) (imprint : Imprint) :
    ∃ assessment members card,
      (Assessment.run source (parse document source order) request).1 = .ok assessment ∧
      Json.read (OutputFormat.json.render (.ofAssessment imprint assessment)) =
        .ok (.object members) ∧
      Json.lookup members "package" = some card ∧
      (∃ before body after, OutputFormat.json.render (.ofAssessment imprint assessment) =
        before ++ "\"package\": " ++ body ++ after ∧ Json.read body = .ok card) ∧
      ∀ body bodySource bodyOrder, Json.read body = .ok card → ∃ again,
        parse body bodySource bodyOrder = .ok again ∧
          again.Restates report assessment.package := by
  have hpackage := Assessment.package_ofReport hstored report
  obtain ⟨_, hgrounded⟩ := grounded_of_parse hparse
  have hfinite : (Assessment.ofReport request report).package.card.freshness.isFinite = true := by
    rw [hpackage]
    exact report.input.finite
  obtain ⟨⟨members, hread, hlookup⟩, hbody⟩ := ScoreSheet.read_render
    (.ofAssessment imprint (.ofReport request report)) hfinite
    (ScoreSheet.lt_of_mem_distribution (by omega) request imprint)
  refine ⟨_, members, _, ?_, hread, hlookup, hbody, fun body bodySource bodyOrder hcard ↦ ?_⟩
  · rw [hparse]
    rfl
  · refine ⟨report.restated, ?_, ?_⟩
    · rw [ScoreSheet.cardRead, ScoreSheet.ofAssessment, hpackage] at hcard
      exact ScoreSheet.parse_card hcard (bounded_card hgrounded hlength _ _)
        (shownOn_card report _) bodySource bodyOrder
    · rw [hpackage]
      exact restates_restated report _

private def freshDocument : String :=
  "\x7b\"name\":\"a\",\"version\":\"1\",\"freshnessScore\":0.75,\"authors\":3,\"dependencies\":[" ++
    "\x7b\"name\":\"b\",\"version\":\"2\"\x7d]\x7d"

private def freshRequest : Request := ⟨false, false, none⟩

private def freshImprint : Imprint := ⟨"2024-01-01T00:00:00Z", "tool", "1", "id"⟩

/-- The freshness of 0.75 is read back, so the report from the sheet has the same verdict. -/
theorem parse_rendered_package_fresh :
    ∃ report assessment members card body again,
      parse freshDocument "r.json" = .ok report ∧ report.dependencies.length = 1 ∧
        freshRequest.aggregate = false ∧
        (Assessment.run "r.json" (parse freshDocument "r.json") freshRequest).1 = .ok assessment ∧
        Json.read (OutputFormat.json.render (.ofAssessment freshImprint assessment)) =
          .ok (.object members) ∧
        Json.lookup members "package" = some card ∧ Json.read body = .ok card ∧
        parse body "sheet.json" = .ok again ∧ again.Restates report assessment.package ∧
        report.FreshnessReadsBack := by
  obtain ⟨report, hreport⟩ : ∃ report, parse freshDocument "r.json" = .ok report :=
    fault?_eq_none_iff.mp (Option.isNone_iff_eq_none.mp (by decide +kernel))
  have hfacts : (parse freshDocument "r.json").toOption.map
      (fun report ↦ (report.dependencies.length,
        decide (Json.readBack report.input.freshness = report.input.freshness))) =
      some (1, true) := by
    decide +kernel
  rw [hreport] at hfacts
  obtain ⟨hlength, hback⟩ := Prod.mk.inj (Option.some.inj hfacts)
  obtain ⟨assessment, members, card, hrun, hread, hlookup, ⟨_, body, _, -, hcard⟩, hparsed⟩ :=
    parse_rendered_package hreport (hlength ▸ by decide) freshRequest rfl freshImprint
  obtain ⟨again, hagain, hrestates⟩ := hparsed body "sheet.json" .byKey hcard
  refine ⟨report, assessment, members, card, body, again, hreport, hlength, rfl, hrun, hread,
    hlookup, hcard, hagain, hrestates, ?_⟩
  rw [FreshnessReadsBack, Json.read_write report.input.finite, of_decide_eq_true hback]

end Report

end PackageRisk
