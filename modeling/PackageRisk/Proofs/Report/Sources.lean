import PackageRisk.Proofs.FileSystem.Write
import PackageRisk.Proofs.Json.Step
import PackageRisk.Proofs.Report.TreeOrder
import PackageRisk.Proofs.Text.Encoding
import PackageRisk.Assessment
import PackageRisk.ReportFile
import PackageRisk.Service

/-!
# Sources of reports

A document is the same report wherever it comes from. Its source goes along while it is resolved,
and is told in failures to read it and nowhere else. So what is read from a file is also what the
service gives if it answers with the same bytes, as long as the nested maps are gone through in the
same order, or in orders that make no difference.
-/

namespace PackageRisk

open Fallible

/-- The faults of one document from two sources: they are the same, but that each fault that tells
its source tells its own. -/
inductive ReportFault.SameFault (source other : String) : ReportFault → ReportFault → Prop
  | unreadable (error : Json.ReadError) :
      SameFault source other (.unreadable source error) (.unreadable other error)
  | missing (field : Field) : SameFault source other (.missing source field) (.missing other field)
  | mistyped (key expected : String) (found : Json.Value) :
      SameFault source other (.mistyped source key expected found)
        (.mistyped other key expected found)
  | unknownSeverity (text : String) :
      SameFault source other (.unknownSeverity source text) (.unknownSeverity other text)
  | package (fault : PackageFault) : SameFault source other (.package fault) (.package fault)
  | negativeCount (field : Field) (package : Package) (count : Int) :
      SameFault source other (.negativeCount field package count)
        (.negativeCount field package count)
  | notFinite (package : Package) (freshness : Binary64) :
      SameFault source other (.notFinite package freshness) (.notFinite package freshness)

/-! ### Two runs of the resolvers -/

namespace RawReport

open ReportFault

variable (source other : String) (raw : RawReport)

/-- A text is resolved alike from two sources. -/
theorem sameBut_textOf? (field : Field) :
    SameBut (SameFault source other) (raw.textOf? source field) (raw.textOf? other field) := by
  unfold textOf?
  cases raw.find? field with
  | none => exact .ok none
  | some found =>
    obtain ⟨key, value⟩ := found
    cases value <;> first | exact .ok _ | exact .error (.mistyped _ _ _)

/-- A number is resolved alike from two sources. -/
theorem sameBut_numberOf? (field : Field) :
    SameBut (SameFault source other) (raw.numberOf? source field) (raw.numberOf? other field) := by
  unfold numberOf?
  cases raw.find? field with
  | none => exact .ok none
  | some found =>
    obtain ⟨key, value⟩ := found
    cases value with
    | number n => cases n <;> exact .ok _
    | _ => exact .error (.mistyped _ _ _)

/-- An integer is resolved alike from two sources. -/
theorem sameBut_integerOf? (field : Field) :
    SameBut (SameFault source other) (raw.integerOf? source field)
      (raw.integerOf? other field) := by
  unfold integerOf?
  cases raw.find? field with
  | none => exact .ok none
  | some found =>
    obtain ⟨key, value⟩ := found
    cases value with
    | number n =>
      cases n with
      | integer n =>
        dsimp only
        split
        · exact .ok _
        · exact .error (.mistyped _ _ _)
      | float x => exact .error (.mistyped _ _ _)
    | _ => exact .error (.mistyped _ _ _)

/-- No source is told of a negative count. -/
theorem sameBut_countOfInteger (package : Package) (field : Field) (n : Int) :
    SameBut (SameFault source other) (countOfInteger package field n)
      (countOfInteger package field n) := by
  unfold countOfInteger
  split
  · exact .error (.negativeCount _ _ _)
  · exact .ok _

/-- A count is resolved alike from two sources. -/
theorem sameBut_countOf? (package : Package) (field : Field) :
    SameBut (SameFault source other) (raw.countOf? source package field)
      (raw.countOf? other package field) := by
  refine (sameBut_integerOf? source other raw field).bind fun n? ↦ ?_
  cases n? with
  | none => exact .ok none
  | some n => exact (sameBut_countOfInteger source other package field n).bind fun _ ↦ .ok _

/-- The counts under keys are resolved alike from two sources. -/
theorem sameBut_flatCounts (package : Package) (scope : Scope) :
    SameBut (SameFault source other) (raw.flatCounts source package scope)
      (raw.flatCounts other package scope) := by
  refine .foldlM _ _ fun counts severity ↦ ?_
  refine (sameBut_countOf? source other raw package _).bind fun count? ↦ ?_
  cases count? <;> exact .ok _

/-- An entry of a nested map is resolved alike from two sources. -/
theorem sameBut_entryOf (entry : String × Option Int) :
    SameBut (SameFault source other) (entryOf source entry) (entryOf other entry) := by
  unfold entryOf
  cases Severity.ofName? entry.1 with
  | none => exact .error (.unknownSeverity _)
  | some severity => exact .ok _

/-- No source is told of the entries that are put over other counts. -/
theorem sameBut_overrideCounts (package : Package) (scope : Scope) (counts : VulnerabilityCounts)
    (entries : List NestedEntry) :
    SameBut (SameFault source other) (overrideCounts package scope counts entries)
      (overrideCounts package scope counts entries) :=
  .foldlM _ _ fun _ _ ↦ (sameBut_countOfInteger source other package _ _).bind fun _ ↦ .ok _

/-- The counts of a scope are resolved alike from two sources. -/
theorem sameBut_vulnerabilityCounts (package : Package) (scope : Scope) :
    SameBut (SameFault source other) (raw.vulnerabilityCounts source package scope)
      (raw.vulnerabilityCounts other package scope) :=
  (sameBut_flatCounts source other raw package scope).bind fun counts ↦
    (SameBut.mapM _ (sameBut_entryOf source other)).bind fun entries ↦
      sameBut_overrideCounts source other package scope counts entries

/-- The package of a report is resolved alike from two sources. -/
theorem sameBut_packageOf :
    SameBut (SameFault source other) (raw.packageOf source) (raw.packageOf other) := by
  refine (sameBut_textOf? source other raw .name).bind fun name? ↦ ?_
  cases name? with
  | none => exact .error (.missing _)
  | some name =>
    refine (sameBut_textOf? source other raw .version).bind fun version? ↦ ?_
    cases version? with
    | none => exact .error (.missing _)
    | some version =>
      dsimp only
      cases Package.ofTexts name version with
      | ok package => exact .ok package
      | error fault => exact .error (.package fault)

/-- The input of a report is resolved alike from two sources. -/
theorem sameBut_inputOf (package : Package) :
    SameBut (SameFault source other) (raw.inputOf source package) (raw.inputOf other package) := by
  refine (sameBut_vulnerabilityCounts source other raw package .direct).bind fun direct ↦ ?_
  refine (sameBut_vulnerabilityCounts source other raw package .indirect).bind fun indirect ↦ ?_
  refine (sameBut_countOf? source other raw package .allDependencies).bind fun count? ↦ ?_
  refine (sameBut_numberOf? source other raw .freshness).bind fun number? ↦ ?_
  dsimp only
  cases ScoreInput.ofFacts? (number?.getD .zero) (count?.getD 0) direct indirect with
  | none => exact .error (.notFinite _ _)
  | some input => exact .ok input

/-- The details of a report are resolved alike from two sources. -/
theorem sameBut_detailsOf (package : Package) :
    SameBut (SameFault source other) (raw.detailsOf source package)
      (raw.detailsOf other package) :=
  (sameBut_textOf? source other raw .scoringDate).bind fun _ ↦
    (sameBut_textOf? source other raw .releaseDate).bind fun _ ↦
      (sameBut_countOf? source other raw package .authors).bind fun _ ↦
        (sameBut_countOf? source other raw package .contributors).bind fun _ ↦
          (sameBut_countOf? source other raw package .immediateDependencies).bind fun _ ↦ .ok _

/-- A report without its dependencies is resolved alike from two sources. -/
theorem sameBut_resolveAlone :
    SameBut (SameFault source other) (raw.resolveAlone source) (raw.resolveAlone other) :=
  (sameBut_packageOf source other raw).bind fun package ↦
    (sameBut_inputOf source other raw package).bind fun _ ↦
      (sameBut_detailsOf source other raw package).bind fun _ ↦ .ok _

mutual

/-- A tree is resolved alike from two sources. -/
theorem sameBut_resolve : ∀ raw : RawReport,
    SameBut (SameFault source other) (raw.resolve source) (raw.resolve other)
  | ⟨members, directCounts, indirectCounts, dependencies⟩ => by
    rw [resolve, resolve]
    exact (sameBut_resolveAlone source other ⟨members, directCounts, indirectCounts, []⟩).bind
      fun _ ↦ (sameBut_resolveAll dependencies).bind fun _ ↦ .ok _

/-- Several trees are resolved alike from two sources. -/
theorem sameBut_resolveAll : ∀ raws : List RawReport,
    SameBut (SameFault source other) (resolveAll source raws) (resolveAll other raws)
  | [] => by
    rw [resolveAll, resolveAll]
    exact .ok []
  | raw :: rest => by
    rw [resolveAll, resolveAll]
    exact (sameBut_resolve raw).bind fun _ ↦ (sameBut_resolveAll rest).bind fun _ ↦ .ok _

end

end RawReport

namespace Report

open RawReport

/-- The failures for one document from two sources: they are the same, but that each failure to read
the document names its own source. -/
inductive SameFailure (source other : String) : Failure → Failure → Prop
  | unreadable (details : String) :
      SameFailure source other (.unreadableReport source details) (.unreadableReport other details)
  | invalidInput (field reason : String) :
      SameFailure source other (.invalidInput field reason) (.invalidInput field reason)
  | package (fault : PackageFault) : SameFailure source other (.package fault) (.package fault)

/-- What is read of one document from two sources: the same report, or the same failure. -/
def SameOutcome (source other : String) : Except Failure Report → Except Failure Report → Prop :=
  SameBut (SameFailure source other)

/-- A failure tells of its source only when the document cannot be read. -/
theorem sameFailure_of_sameFault {source other : String} {fault after : ReportFault}
    (h : ReportFault.SameFault source other fault after) :
    SameFailure source other fault.failure after.failure := by
  cases h with
  | unreadable error => exact .unreadable _
  | missing field => exact .unreadable _
  | mistyped key expected found => exact .unreadable _
  | unknownSeverity text => exact .unreadable _
  | package fault => exact .package fault
  | negativeCount field owner count => exact .invalidInput _ _
  | notFinite owner freshness => exact .invalidInput _ _

/-- A document has the same outcome from two sources, in one order of its nested maps. -/
theorem sameOutcome_parse (document source other : String) (order : EntryOrder) :
    SameOutcome source other (parse document source order) (parse document other order) := by
  have hdocument : SameBut (ReportFault.SameFault source other)
      (ofDocument document source order) (ofDocument document other order) := by
    unfold ofDocument
    cases RawReport.read document with
    | error error => exact .error (.unreadable error)
    | ok raw => exact sameBut_resolve source other (order.arrange raw)
  exact hdocument.mapError fun _ _ ↦ sameFailure_of_sameFault

/-- A document has the same outcome from two sources in any two orders, unless it has a tree that is
not settled. -/
theorem sameOutcome_of_settled {document : String}
    (hsettled : ∀ raw, RawReport.read document = .ok raw → raw.Settled) (source other : String)
    (one another : EntryOrder) :
    SameOutcome source other (parse document source one) (parse document other another) := by
  have hsame : ofDocument document other another = ofDocument document other one := by
    cases hread : RawReport.read document with
    | error error => rw [ofDocument, ofDocument, hread]; rfl
    | ok raw =>
      rw [ofDocument_eq_resolve hread, ofDocument_eq_resolve hread,
        (hsettled raw hread).resolve_eq (another.reorders raw),
        (hsettled raw hread).resolve_eq (one.reorders raw)]
  rw [parse, parse, hsame]
  exact sameOutcome_parse document source other one

/-- A report comes out in every other order, and from every other source, if the foremost entries
agree. -/
theorem parse_of_untied {document : String} {raw : RawReport}
    (hraw : RawReport.read document = .ok raw) (huntied : raw.Untied) {source : String}
    {one : EntryOrder} {report : Report} (h : parse document source one = .ok report)
    (other : String) (another : EntryOrder) : parse document other another = .ok report := by
  rw [parse_eq_ok_iff_resolve hraw] at h ⊢
  refine (huntied.resolvesAlike (another.reorders raw) other report).mpr ?_
  rw [← (sameBut_resolve source other raw).eq_ok_iff]
  exact (huntied.resolvesAlike (one.reorders raw) source report).mp h

/-- A document that has a report in some order has the same outcome in all orders, from all sources,
exactly when the foremost entries agree. -/
theorem sameOutcome_iff_untied {document : String} {raw : RawReport}
    (hraw : RawReport.read document = .ok raw)
    (hreport : ∃ source order report, parse document source order = .ok report) :
    (∀ source other one another,
      SameOutcome source other (parse document source one) (parse document other another)) ↔
      raw.Untied := by
  constructor
  · intro hall
    obtain ⟨members, -, hfrom⟩ := exists_readFrom hraw (.refl raw)
    have halike := (parsesAlike_iff hraw hraw (.refl raw) hfrom.inRange).mp
      fun source one another report ↦ (hall source source one another).eq_ok_iff
    obtain ⟨source, order, report, hparse⟩ := hreport
    exact halike.resolve_left fun hnone ↦ hnone source order report hparse
  · intro huntied source other one another
    obtain ⟨_, _, report, hparse⟩ := hreport
    rw [parse_of_untied hraw huntied hparse source one,
      parse_of_untied hraw huntied hparse other another]
    exact .ok report

/-- No value begins with a byte order mark, and neither does a document. -/
theorem head?_ne_byteOrderMark {document source : String} {order : EntryOrder} {report : Report}
    (h : parse document source order = .ok report) :
    document.toList.head? ≠ some Text.byteOrderMark := by
  intro hmark
  obtain ⟨rest, hdocument⟩ := List.head?_eq_some_iff.mp hmark
  rw [parse, mapError_eq_ok_iff, ofDocument, bind_eq_ok_iff] at h
  obtain ⟨raw, hraw, -⟩ := h
  rw [mapError_eq_ok_iff, RawReport.read, map_eq_ok_iff] at hraw
  obtain ⟨value, hvalue, -⟩ := hraw
  obtain ⟨after, hread, -⟩ := Json.readDocument_eq_ok_iff.mp hvalue
  have hskip : Json.skipSpace (Text.byteOrderMark :: rest) = Text.byteOrderMark :: rest := rfl
  obtain ⟨-, hscalar | ⟨_, _, _, -, harray, -⟩ | ⟨_, _, _, -, hobject, -⟩⟩ :=
    Json.readValue_eq_ok_iff.mp hread
  · rw [hdocument, hskip] at hscalar
    cases hscalar
  · rw [hdocument, hskip] at harray
    cases harray
  · rw [hdocument, hskip] at hobject
    cases hobject

end Report

/-- The text of a report is read from a file that consists of its bytes. -/
theorem ReportFile.lookup_of_readText {files : FileSystem} {path text : String}
    (h : readText files path = .ok text) : files.lookup true path = .ok (.file text.toUTF8) := by
  unfold readText at h
  split at h
  · cases h
  · obtain ⟨-, -, h⟩ := bind_eq_ok_iff.mp h
    exact FileSystem.readText_eq_ok_iff.mp (mapError_eq_ok_iff.mp h)

/-- A reply with the bytes of a text holds the report of the text. -/
theorem Service.readReply_toUTF8 {text : String} (h : text.toList.head? ≠ some Text.byteOrderMark)
    (url : String) (package : Package) (order : RawReport.EntryOrder) :
    readReply url package (.response 200 text.toUTF8) order = Report.parse text url order := by
  rw [readReply, if_pos rfl, Text.decodeBody_toUTF8 h]

namespace Report

open RawReport

/-- Whatever the document, the outcome is the same from all sources, in every order of its nested
maps. The orders may be others for each reading. They make no difference to the outcome of a
document unless it has a tree that is not settled; and to that of a document which has a report in
some order they make none exactly when the foremost entries agree. So it is with a text in a file
and a reply with its bytes; a byte order mark is excepted, which replies are read without. No report
begins with one, so each report that is read from a file is also what the service gives when it
answers with the content of this file, in the same order or in any if the foremost entries agree,
and it has the same scores. -/
theorem sameOutcome_of_sources (document : String) (files : FileSystem) (path : String) :
    (∀ source other order,
      SameOutcome source other (parse document source order) (parse document other order)) ∧
    ((∀ raw, RawReport.read document = .ok raw → raw.Settled) → ∀ source other one another,
      SameOutcome source other (parse document source one) (parse document other another)) ∧
    (∀ raw, RawReport.read document = .ok raw →
      (∃ source order report, parse document source order = .ok report) →
      ((∀ source other one another,
        SameOutcome source other (parse document source one) (parse document other another)) ↔
        raw.Untied)) ∧
    (∀ text, ReportFile.readText files path = .ok text →
      text.toList.head? ≠ some Text.byteOrderMark → ∀ url package order,
        SameOutcome path url (ReportFile.load files path order)
          (Service.readReply url package (.response 200 text.toUTF8) order)) ∧
    ∀ order report, ReportFile.load files path order = .ok report →
      ∃ text, files.lookup true path = .ok (.file text.toUTF8) ∧ ∀ url package another,
        (another = order ∨ ∀ raw, RawReport.read text = .ok raw → raw.Untied) →
        Service.readReply url package (.response 200 text.toUTF8) another = .ok report ∧
        ∀ request : Request,
          (Assessment.run path (ReportFile.load files path order) request).1 =
            .ok (.ofReport request report) ∧
          (Assessment.run url
            (Service.readReply url package (.response 200 text.toUTF8) another) request).1 =
            .ok (.ofReport request report) := by
  refine ⟨sameOutcome_parse document, sameOutcome_of_settled,
    fun raw hraw ↦ sameOutcome_iff_untied hraw, fun text htext hmark url package order ↦ ?_,
    fun order report hload ↦ ?_⟩
  · rw [ReportFile.load, htext, Service.readReply_toUTF8 hmark]
    exact sameOutcome_parse text path url order
  · obtain ⟨text, htext, hparse⟩ := bind_eq_ok_iff.mp hload
    refine ⟨text, ReportFile.lookup_of_readText htext, fun url package another horder ↦ ?_⟩
    have hreply : Service.readReply url package (.response 200 text.toUTF8) another =
        .ok report := by
      rw [Service.readReply_toUTF8 (head?_ne_byteOrderMark hparse)]
      obtain rfl | huntied := horder
      · exact (sameOutcome_parse text path url another).eq_ok_iff.mp hparse
      · rw [parse, mapError_eq_ok_iff, ofDocument, bind_eq_ok_iff] at hparse
        obtain ⟨raw, hraw, hresolve⟩ := hparse
        have hraw := mapError_eq_ok_iff.mp hraw
        exact parse_of_untied hraw (huntied raw hraw)
          ((parse_eq_ok_iff_resolve hraw).mpr hresolve) url another
    refine ⟨hreply, fun request ↦ ⟨?_, ?_⟩⟩
    · rw [hload]
      rfl
    · rw [hreply]
      rfl

/-- The release date has a letter of two bytes, and no two entries name one severity. -/
private def datedDocument : String :=
  "\x7b\"name\":\"a\",\"version\":\"1\",\"release_date\":\"März 2024\"," ++
    "\"directVulnerabilityCounts\":\x7b\"high\":1,\"LOW\":2\x7d\x7d"

private def datedFiles : FileSystem :=
  (FileSystem.empty ["work"]).set ["r.json", "work"] (some (.file datedDocument.toUTF8))

/-- One key names no severity. -/
private def severeDocument : String :=
  "\x7b\"name\":\"a\",\"version\":\"1\"," ++
    "\"directVulnerabilityCounts\":\x7b\"severe\":1,\"low\":2\x7d\x7d"

private theorem untied_datedDocument {raw : RawReport}
    (hraw : RawReport.read datedDocument = .ok raw) : raw.Untied := by
  have huntied : (RawReport.read datedDocument).toOption.all (·.Untied) = true := by decide +kernel
  rw [hraw] at huntied
  exact of_decide_eq_true huntied

/-- The file holds a report, which the service gives too, in whichever order. An unknown severity is
told from all sources and in all orders. An object without a name is no report, and its failures
differ by their sources. -/
theorem sameOutcome_of_sources_dated :
    (∃ report, ReportFile.load datedFiles "r.json" = .ok report ∧
      report.details.releaseDate = some "März 2024" ∧ ∀ order,
        Service.readReply "http://h" report.package (.response 200 datedDocument.toUTF8) order =
          .ok report) ∧
    (∀ source other one another, SameOutcome source other
      (parse severeDocument source one) (parse severeDocument other another)) ∧
    SameOutcome "r.json" "http://h"
      (.error (.unreadableReport "r.json" "missing field `package`"))
      (.error (.unreadableReport "http://h" "missing field `package`")) := by
  obtain ⟨-, hsevere, -, -, hfile⟩ := sameOutcome_of_sources severeDocument datedFiles "r.json"
  refine ⟨?_, ?_, (sameOutcome_of_sources "\x7b\x7d" datedFiles "r.json").1 "r.json" "http://h"
    .byKey⟩
  · have hdate : (ReportFile.load datedFiles "r.json").toOption.map (·.details.releaseDate) =
        some (some "März 2024") := by
      decide +kernel
    obtain ⟨report, hload, hreport⟩ := exists_eq_ok_of_map hdate
    obtain ⟨text, htext, hreply⟩ := hfile .byKey report hload
    have hlookup : datedFiles.lookup true "r.json" = .ok (.file datedDocument.toUTF8) := by
      rfl
    rw [hlookup, Except.ok.injEq, Entry.file.injEq] at htext
    obtain rfl : datedDocument = text := String.toByteArray_inj.mp htext
    exact ⟨report, hload, hreport, fun order ↦
      (hreply "http://h" report.package order (.inr fun raw ↦ untied_datedDocument)).1⟩
  · have hsettled : (RawReport.read severeDocument).toOption.all (·.Settled) = true := by
      decide +kernel
    refine hsevere fun raw hraw ↦ ?_
    rw [hraw] at hsettled
    exact of_decide_eq_true hsettled

/-- Two entries name critical. -/
private def tiedDocument : String :=
  "\x7b\"name\":\"a\",\"version\":\"1\"," ++
    "\"directVulnerabilityCounts\":\x7b\"CRITICAL\":1,\"critical\":2\x7d\x7d"

/-- Two keys name no severity. -/
private def strangeDocument : String :=
  "\x7b\"name\":\"a\",\"version\":\"1\"," ++
    "\"directVulnerabilityCounts\":\x7b\"grave\":1,\"severe\":2\x7d\x7d"

private theorem exists_order_tied : ∃ order,
    (parse tiedDocument "http://h" order).toOption.map (·.input.direct) =
      some ⟨.clamp 2, 0, 0, 0⟩ := by
  have hread : (RawReport.read tiedDocument).toOption.map (fun raw ↦ (raw.nested .direct,
      ((raw.withNested .direct [("critical", some 2), ("CRITICAL", some 1)]).resolve
        "http://h").toOption.map (·.input.direct))) =
      some ([("CRITICAL", some 1), ("critical", some 2)], some ⟨.clamp 2, 0, 0, 0⟩) := by
    decide +kernel
  obtain ⟨raw, hraw, heq⟩ := exists_eq_ok_of_map hread
  obtain ⟨hentries, hcounts⟩ := Prod.mk.inj heq
  have hperm : (raw.nested .direct).Perm [("critical", some 2), ("CRITICAL", some 1)] := by
    rw [hentries]
    exact .swap _ _ _
  obtain ⟨order, horder⟩ := exists_order_parse hraw hperm
  obtain ⟨report, hresolve, hreport⟩ := exists_eq_ok_of_map hcounts
  refine ⟨order, ?_⟩
  rw [horder, hresolve]
  exact congrArg some hreport

private theorem exists_order_strange : ∃ order,
    fault? (parse strangeDocument "http://h" order) =
      some (.unreadableReport "http://h" (Severity.unknownMessage "severe")) := by
  have hread : (RawReport.read strangeDocument).toOption.map (fun raw ↦ (raw.nested .direct,
      (fault? ((raw.withNested .direct [("severe", some 2), ("grave", some 1)]).resolve
        "http://h")).map (·.failure))) =
      some ([("grave", some 1), ("severe", some 2)],
        some (.unreadableReport "http://h" (Severity.unknownMessage "severe"))) := by
    decide +kernel
  obtain ⟨raw, hraw, heq⟩ := exists_eq_ok_of_map hread
  obtain ⟨hentries, hfault⟩ := Prod.mk.inj heq
  have hperm : (raw.nested .direct).Perm [("severe", some 2), ("grave", some 1)] := by
    rw [hentries]
    exact .swap _ _ _
  obtain ⟨order, horder⟩ := exists_order_parse hraw hperm
  obtain ⟨fault, hresolve, hfailure⟩ := Option.map_eq_some_iff.mp hfault
  refine ⟨order, ?_⟩
  rw [horder, fault?_eq_some_iff.mp hresolve]
  exact congrArg some hfailure

/-- From another source the entries may come in another order: then the other one of two entries for
one severity counts, or the other one of two unknown keys is told. -/
theorem not_sameOutcome_tied :
    (∃ order, (parse tiedDocument "r.json").toOption.map (·.input.direct) =
        some ⟨.clamp 1, 0, 0, 0⟩ ∧
      (parse tiedDocument "http://h" order).toOption.map (·.input.direct) =
        some ⟨.clamp 2, 0, 0, 0⟩) ∧
    ∃ order, fault? (parse strangeDocument "r.json") =
        some (.unreadableReport "r.json" (Severity.unknownMessage "grave")) ∧
      fault? (parse strangeDocument "http://h" order) =
        some (.unreadableReport "http://h" (Severity.unknownMessage "severe")) := by
  obtain ⟨order, horder⟩ := exists_order_tied
  obtain ⟨another, hanother⟩ := exists_order_strange
  exact ⟨⟨order, by decide +kernel, horder⟩, another, by decide +kernel, hanother⟩

end Report

end PackageRisk
