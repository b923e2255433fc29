import PackageRisk.Failure
import PackageRisk.Report
import PackageRisk.Report.Raw

/-!
# From raw reports to reports

Resolving a raw report picks one spelling for every field, checks its kind, and puts the defaults in
place of what is missing. Counts may stand under keys of their own and in the nested maps; an entry
of a nested map overrides the keys of the severity that it names, and of several entries for one
severity the first in rank does. A report is resolved before its dependencies, and these in their
order, so the first fault in this order is the one that is told. The source of the document goes
along, for the faults that tell it.
-/

namespace PackageRisk

/-- Why a document is no report. A document that cannot be read as one is told with its source. -/
inductive ReportFault
  | unreadable (source : String) (error : Json.ReadError)
  | missing (source : String) (field : Field)
  | mistyped (source key expected : String) (found : Json.Value)
  | unknownSeverity (source text : String)
  | package (fault : PackageFault)
  | negativeCount (field : Field) (package : Package) (count : Int)
  | notFinite (package : Package) (freshness : Binary64)
  deriving Repr

namespace ReportFault

/-- A field with the package whose report it is in. -/
def inContext (label : String) (package : Package) : String :=
  label ++ " (" ++ package.text ++ ")"

/-- The failure to read a report. -/
def failure : ReportFault → Failure
  | unreadable source error => .unreadableReport source error.message
  | missing source field => .unreadableReport source ("missing field `" ++ field.label ++ "`")
  | mistyped source key expected found =>
    .unreadableReport source
      ("field `" ++ key ++ "` must be " ++ expected ++ ", found " ++ found.shown)
  | unknownSeverity source text => .unreadableReport source (Severity.unknownMessage text)
  | package fault => .package fault
  | negativeCount field owner count =>
    .invalidInput (inContext field.label owner)
      ("count is negative (" ++ toString count ++ ")")
  | notFinite owner freshness =>
    .invalidInput (inContext ScoreInput.freshnessField owner)
      (ScoreInput.notFiniteMessage freshness)

end ReportFault

namespace RawReport

/-- The text of a field, if it is there. -/
def textOf? (raw : RawReport) (source : String) (field : Field) :
    Except ReportFault (Option String) :=
  match raw.find? field with
  | none => .ok none
  | some (_, .string text) => .ok (some text)
  | some (key, value) => .error (.mistyped source key "a string" value)

/-- The number of a field, if it is there. -/
def numberOf? (raw : RawReport) (source : String) (field : Field) :
    Except ReportFault (Option Binary64) :=
  match raw.find? field with
  | none => .ok none
  | some (_, .number (.integer n)) => .ok (some (.ofInt n))
  | some (_, .number (.float x)) => .ok (some x)
  | some (key, value) => .error (.mistyped source key "a number" value)

/-- The integer of a field, if it is there. -/
def integerOf? (raw : RawReport) (source : String) (field : Field) :
    Except ReportFault (Option Int) :=
  match raw.find? field with
  | none => .ok none
  | some (key, .number (.integer n)) =>
    if n ≤ maxInteger then .ok (some n)
    else .error (.mistyped source key "an integer" (.integer n))
  | some (key, value) => .error (.mistyped source key "an integer" value)

/-- The count of an integer, which must not be negative. -/
def countOfInteger (package : Package) (field : Field) (n : Int) : Except ReportFault Count :=
  if n < 0 then .error (.negativeCount field package n) else .ok (.clamp n.toNat)

/-- The count of a field, if it is there. -/
def countOf? (raw : RawReport) (source : String) (package : Package) (field : Field) :
    Except ReportFault (Option Count) := do
  match ← raw.integerOf? source field with
  | none => .ok none
  | some n => .ok (some (← countOfInteger package field n))

/-- The counts of a scope under keys of their own. -/
def flatCounts (raw : RawReport) (source : String) (package : Package) (scope : Scope) :
    Except ReportFault VulnerabilityCounts :=
  Severity.all.foldlM (fun counts severity ↦ do
    match ← raw.countOf? source package (.vulnerabilities scope severity) with
    | none => .ok counts
    | some count => .ok (counts.set severity count)) 0

/-- An entry of a nested map whose key names a severity. -/
structure NestedEntry where
  severity : Severity
  isAlias : Bool
  value : Option Int
  deriving DecidableEq, Repr

/-- The severity that the key of an entry names. -/
def entryOf (source : String) (entry : String × Option Int) : Except ReportFault NestedEntry :=
  match Severity.ofName? entry.1 with
  | none => .error (.unknownSeverity source entry.1)
  | some severity => .ok ⟨severity, severity.isAlias entry.1, entry.2⟩

namespace NestedEntry

/-- The entries are ranked by their severities; of one severity those with null come last, and among
the others the ones under its own name come first. -/
def compare (a b : NestedEntry) : Ordering :=
  (Ord.compare a.severity.rank b.severity.rank).then <|
    (Ord.compare a.value.isNone b.value.isNone).then (Ord.compare a.isAlias b.isAlias)

/-- An entry may stand before another. -/
def le (a b : NestedEntry) : Bool := (a.compare b).isLE

/-- Puts an entry before the first one that it may stand before. -/
def insert (entry : NestedEntry) : List NestedEntry → List NestedEntry
  | [] => [entry]
  | first :: rest => if entry.le first then entry :: first :: rest else first :: entry.insert rest

/-- The entries by rank. Those of one rank stay in the order in which they come. -/
def sort (entries : List NestedEntry) : List NestedEntry := entries.foldr insert []

/-- The first of the entries for each severity, where these stand in a row. -/
def firstOfEach (entries : List NestedEntry) : List NestedEntry :=
  entries.eraseRepsBy fun a b ↦ a.severity == b.severity

end NestedEntry

/-- Puts the entries of a nested map over the counts of a scope; null counts zero. -/
def overrideCounts (package : Package) (scope : Scope) (counts : VulnerabilityCounts)
    (entries : List NestedEntry) : Except ReportFault VulnerabilityCounts :=
  (NestedEntry.firstOfEach (NestedEntry.sort entries)).foldlM (fun counts entry ↦ do
    let field := .vulnerabilities scope entry.severity
    let count ← countOfInteger package field (entry.value.getD 0)
    .ok (counts.set entry.severity count)) counts

/-- The counts of a scope. -/
def vulnerabilityCounts (raw : RawReport) (source : String) (package : Package) (scope : Scope) :
    Except ReportFault VulnerabilityCounts := do
  let counts ← raw.flatCounts source package scope
  let entries ← (raw.nested scope).mapM (entryOf source)
  overrideCounts package scope counts entries

/-- The package of a report. -/
def packageOf (raw : RawReport) (source : String) : Except ReportFault Package := do
  match ← raw.textOf? source .name with
  | none => .error (.missing source .name)
  | some name =>
    match ← raw.textOf? source .version with
    | none => .error (.missing source .version)
    | some version => (Package.ofTexts name version).mapError .package

/-- The score input of a report; whatever is missing is zero. -/
def inputOf (raw : RawReport) (source : String) (package : Package) :
    Except ReportFault ScoreInput := do
  let direct ← raw.vulnerabilityCounts source package .direct
  let indirect ← raw.vulnerabilityCounts source package .indirect
  let allDependencies ← raw.countOf? source package .allDependencies
  let freshness := (← raw.numberOf? source .freshness).getD .zero
  match ScoreInput.ofFacts? freshness (allDependencies.getD 0) direct indirect with
  | none => .error (.notFinite package freshness)
  | some input => .ok input

/-- The details of a report. -/
def detailsOf (raw : RawReport) (source : String) (package : Package) :
    Except ReportFault ReportDetails := do
  let scoringDate ← raw.textOf? source .scoringDate
  let releaseDate ← raw.textOf? source .releaseDate
  let authors ← raw.countOf? source package .authors
  let contributors ← raw.countOf? source package .contributors
  let immediateDependencies ← raw.countOf? source package .immediateDependencies
  .ok { scoringDate, releaseDate, authors, contributors, immediateDependencies }

/-- The report of a raw report by itself, without its dependencies. -/
def resolveAlone (raw : RawReport) (source : String) : Except ReportFault Report := do
  let package ← raw.packageOf source
  let input ← raw.inputOf source package
  let details ← raw.detailsOf source package
  .ok { package, input, details, dependencies := [] }

mutual

/-- The report of a raw report, with those of its dependencies. -/
def resolve (source : String) : RawReport → Except ReportFault Report
  | ⟨members, directCounts, indirectCounts, dependencies⟩ => do
    let report ← resolveAlone ⟨members, directCounts, indirectCounts, []⟩ source
    let resolved ← resolveAll source dependencies
    .ok { report with dependencies := resolved }

/-- The reports of several raw reports, in their order. -/
def resolveAll (source : String) : List RawReport → Except ReportFault (List Report)
  | [] => .ok []
  | raw :: rest => do
    let report ← resolve source raw
    let reports ← resolveAll source rest
    .ok (report :: reports)

end

end RawReport

namespace Report

/-- The report that a document holds, where the entries of its nested maps are gone through in an
order. -/
def ofDocument (document source : String) (order : RawReport.EntryOrder := .byKey) :
    Except ReportFault Report := do
  let raw ← (RawReport.read document).mapError (.unreadable source)
  (order.arrange raw).resolve source

/-- The report that a document from a source holds. -/
def parse (document source : String) (order : RawReport.EntryOrder := .byKey) :
    Except Failure Report :=
  (ofDocument document source order).mapError (·.failure)

end Report

end PackageRisk
