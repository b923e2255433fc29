import PackageRisk.Run
import PackageRisk.Timestamp
import Std.Time.DateTime.Timestamp

/-!
# The command

Surveys the files that a run may look at, lets the run happen, and carries out what it left behind.
The program opens no connections: a request for a report ends as on a machine without network.
-/

namespace PackageRisk.Command

/-- The entries of some locations. -/
abbrev Survey := List (Location × Entry)

/-- The path of a location from the root. -/
def pathOf (location : Location) : String := "/".intercalate location.reverse

/-- The steps of the real path of a location; none if a link on its way leads nowhere. -/
def realSteps (location : Location) : IO (List String) := do
  try
    let path ← IO.FS.realPath ("/" ++ pathOf location)
    return (FileSystem.steps path.toString).filter (· ≠ ".")
  catch _ => return []

/-- What stands at a location. What is neither a file nor a link counts as a directory. -/
def look (location : Location) : IO (Option Entry) := do
  let root ← IO.FS.realPath "/"
  let path := root / pathOf location
  try
    match (← path.symlinkMetadata).type with
    | .file => return some (.file (← IO.FS.readBinFile path))
    | .symlink =>
      let target ← realSteps location
      return some (.link (if target.isEmpty then "" else "/" ++ "/".intercalate target))
    | _ => return some .directory
  catch _ => return none

/-- Adds the entries on the way of some steps that meet no link. -/
def surveyDirect : Survey → Location → List String → IO Survey
  | survey, _, [] => return survey
  | survey, here, step :: rest => do
    match ← look (step :: here) with
    | none => return survey
    | some entry => surveyDirect ((step :: here, entry) :: survey) (step :: here) rest

/-- Adds the entries on the way of some steps from a location, and on those of the links there. -/
def surveySteps : Survey → Location → List String → IO Survey
  | survey, _, [] => return survey
  | survey, here, step :: rest => do
    if step = "." then surveySteps survey here rest
    else if step = ".." then surveySteps survey here.tail rest
    else
      let next := step :: here
      match ← look next with
      | none => return survey
      | some (.link target) =>
        let steps := FileSystem.steps target
        let survey ← surveyDirect ((next, .link target) :: survey) [] steps
        surveySteps survey steps.reverse rest
      | some entry => surveySteps ((next, entry) :: survey) next rest

/-- The file system, as far as the ways of some paths show it. -/
def survey (paths : List String) : IO FileSystem := do
  let here := (FileSystem.steps (← IO.currentDir).toString).reverse
  let entries ← surveyDirect [([], .directory)] [] here.reverse
  let entries ← paths.foldlM (fun entries path ↦
    surveySteps entries (FileSystem.start here path) (FileSystem.steps path)) entries
  return { entry := fun location ↦ List.lookup location entries, workingDirectory := here }

/-- The paths that the run of a command line looks at. -/
def pathsOf (line : CommandLine) : List String :=
  (line.config.getD (Path.join "." Config.fileName)) ::
    (line.report.toList ++ line.output.toList)

/-- The imprint of a sheet that is made now. -/
def imprintNow : IO Imprint := do
  let now ← Std.Time.Timestamp.now
  let nanos := now.toNanosecondsSinceUnixEpoch.val.toNat
  let bytes ← IO.getRandomBytes 16
  return Program.imprint (Timestamp.text (nanos / 1000000000) (nanos % 1000000000))
    (Program.reportId bytes.toList)

/-- Carries out what a run left behind, if it was to write to a path. -/
def carryOut (output : Option String) (outcome : Outcome) : IO Unit := do
  IO.print outcome.trace.output
  if let some path := output then
    if let .ok (.file content) := outcome.trace.files.lookup true path then
      if outcome.exitCode ≠ .applicationError then IO.FS.writeBinFile path content
  outcome.trace.messages.forM IO.eprintln

/-- The run of the arguments after the name of the program. -/
def runArguments (arguments : List String) : IO ExitCode := do
  let line := (CommandLine.ofArguments arguments).toOption
  let around : Surroundings :=
    { files := ← survey ((line.map pathsOf).getD [])
      fetch := fun _ ↦ .unreachable "Network is unreachable (os error 101)"
      imprint := ← imprintNow
      colors := ← (← IO.getStderr).isTty }
  let outcome := Outcome.ofArguments around arguments
  carryOut (line.bind (·.output)) outcome
  return outcome.exitCode

end PackageRisk.Command

/-- Runs the command and ends with its code. -/
def main (arguments : List String) : IO UInt32 := do
  return (← PackageRisk.Command.runArguments arguments).number.toUInt32
