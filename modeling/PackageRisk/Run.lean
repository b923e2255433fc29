import PackageRisk.OutputFile
import PackageRisk.Program
import PackageRisk.ReportFile
import PackageRisk.Settings
import PackageRisk.Summary

/-!
# Runs of the program

A run reads a report from a file or from the service, assesses it, and writes the rendered sheet. It
depends on nothing but its surroundings: the files, what the service replies, the imprint for its
sheet, whether messages are shown in colors, and the order in which it goes through nested maps of
counts. What it has said before a failure stays said.
-/

namespace PackageRisk

/-- What a run finds. -/
structure Surroundings where
  files : FileSystem
  /-- The reply to the request for a URL. -/
  fetch : String → Service.Reply
  imprint : Imprint
  colors : Bool
  /-- The order in which the entries of nested maps are gone through. -/
  order : RawReport.EntryOrder := .byKey

/-- What a run has left behind. -/
structure Trace where
  /-- The text that was asked for, if it was not written to a file. -/
  output : String
  /-- The lines for the user, in order. -/
  messages : List String
  files : FileSystem

/-- A part of a run. -/
abbrev Session := ExceptT Failure (StateM Trace)

namespace Session

/-- Tells the user some lines. -/
def tell (messages : List String) : Session Unit :=
  modify fun trace ↦ { trace with messages := trace.messages ++ messages }

/-- Goes on with a result, or stops with a failure. -/
def attempt {α : Type} : Except Failure α → Session α
  | .ok a => pure a
  | .error failure => throw failure

/-- The configuration of the command line's file, or else of the working directory. -/
def configure (line : CommandLine) : Session Config := do
  let files := (← get).files
  let config ←
    match line.config with
    | some path => attempt ((Config.load files path).map some)
    | none => attempt (Config.discover files ".")
  let config := config.getD {}
  tell config.warnings
  return config

/-- Loads the report, and names its source. A report file comes before the service. -/
def load (fetch : String → Service.Reply) (line : CommandLine) (apiUrl : String)
    (order : RawReport.EntryOrder := .byKey) : Session (String × Except Failure Report) := do
  match line.report, line.package, line.packageVersion with
  | some path, _, _ => return (path, ReportFile.load (← get).files path order)
  | none, some name, some version =>
    let package ← attempt ((Package.ofTexts name version).mapError .package)
    let url := Service.reportUrl apiUrl package
    return (url, Service.readReply url package (fetch url) order)
  | none, _, _ =>
    throw (.context "Either a report file or --package with --package-version is required" [])

/-- An event that is told in a line of its own; waiting is not. -/
def isTold : Event → Bool
  | .waiting _ | .waitOver => false
  | _ => true

/-- The text ends its last line. -/
def endLine (text : String) : String :=
  if text.toList.getLast? = some '\n' then text else text ++ "\n"

/-- Writes a rendered sheet to a file, or else to the output. -/
def present (path : Option String) (text : String) : Session Unit := do
  match path with
  | none => modify fun trace ↦ { trace with output := trace.output ++ endLine text }
  | some path =>
    let files ← attempt (OutputFile.present (← get).files path text)
    modify fun trace ↦ { trace with files }
    tell ["✅ Output complete: " ++ path]

/-- The lines that tell the grade of the package, and a worst grade that it does not reach. -/
def verdict (assessment : Assessment) (colors : Bool) : List String :=
  let package := assessment.package
  let grade := package.score.grade
  let shortfall (minGrade : Grade) : String :=
    "❌ Grade " ++ grade.letter ++ " is worse than the minimum grade " ++ minGrade.letter
  ["", Summary.line package.report.package.text package.score.total grade colors] ++
    if assessment.isBelowMinimum then (assessment.minGrade.map shortfall).toList else []

/-- The exit code that the grade of the package asks for. -/
def exitCodeOf (assessment : Assessment) : ExitCode :=
  if assessment.isBelowMinimum then .gradeBelowMinimum else .success

/-- The session of a command line. -/
def perform (around : Surroundings) (line : CommandLine) : Session ExitCode := do
  let config ← configure line
  let settings ← attempt ((Settings.resolve line config).mapError SettingFault.failure)
  let (source, loaded) ← load around.fetch line settings.apiUrl around.order
  let (result, events) := Assessment.run source loaded settings.request
  tell ((events.filter isTold).map Event.message)
  let assessment ← attempt result
  tell [settings.format.progressMessage]
  present line.output (settings.format.render (.ofAssessment around.imprint assessment))
  tell (verdict assessment around.colors)
  return exitCodeOf assessment

end Session

/-- What a run ends with. -/
structure Outcome where
  exitCode : ExitCode
  trace : Trace

namespace Outcome

/-- The lines that tell a failure and its causes. -/
def failureLines (failure : Failure) : List String :=
  ["", "❌ An error occurred:", "", failure.message] ++
    failure.causes.flatMap (fun cause ↦ ["", "Caused by: " ++ cause]) ++ [""]

/-- The outcome of a command line. -/
def ofLine (around : Surroundings) (line : CommandLine) : Outcome :=
  match (Session.perform around line).run ⟨"", [], around.files⟩ with
  | (.ok exitCode, trace) => ⟨exitCode, trace⟩
  | (.error failure, trace) =>
    ⟨.applicationError, { trace with messages := trace.messages ++ failureLines failure }⟩

/-- The outcome of arguments that are no command line to be carried out. -/
def ofStop (files : FileSystem) : CommandLine.Stop → Outcome
  | .fault fault => ⟨.invalidArguments, ⟨"", [Program.faultMessage fault], files⟩⟩
  | .help => ⟨.success, ⟨Program.usage, [], files⟩⟩
  | .version => ⟨.success, ⟨Program.versionLine, [], files⟩⟩

/-- The outcome of the arguments after the name of the program. -/
def ofArguments (around : Surroundings) (arguments : List String) : Outcome :=
  match CommandLine.ofArguments arguments with
  | .error stop => ofStop around.files stop
  | .ok line => ofLine around line

end Outcome

end PackageRisk
