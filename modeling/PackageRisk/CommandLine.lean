import PackageRisk.OutputFormat

/-!
# Command lines

A command line is read from left to right. An option takes the next argument as its value unless
that one begins with a dash; a value is looked at when the next option or the next argument without
dash is met, and at the end. The first fault stops the reading, and so do the requests for help and
for the version.
-/

namespace PackageRisk

/-- What is asked of a run. -/
structure CommandLine where
  /-- The path of a report file. -/
  report : Option String := none
  package : Option String := none
  packageVersion : Option String := none
  apiUrl : Option String := none
  format : Option OutputFormat := none
  /-- The path that the rendered report is written to. -/
  output : Option String := none
  breakdown : Bool := false
  aggregate : Bool := false
  minGrade : Option Grade := none
  /-- The path of the configuration file. -/
  config : Option String := none
  deriving DecidableEq, Repr

namespace CommandLine

/-- Why the arguments are refused. -/
inductive Fault
  | unknownArgument
  /-- A value is missing, or a path is empty. -/
  | emptyValue
  /-- A value is none that the option takes. -/
  | unfitValue
  /-- A value for an option that takes none. -/
  | surplusValue
  /-- An option is given twice, or two sources of the report are. -/
  | conflict
  /-- The source of the report is missing, or a part of it. -/
  | missingArgument
  deriving DecidableEq, Repr

/-- Why the reading stops before its end. -/
inductive Stop
  | fault (fault : Fault)
  | help
  | version
  deriving DecidableEq, Repr

/-- What takes a value: the options that do, and the argument without option. -/
inductive Setting
  | report
  | package
  | packageVersion
  | apiUrl
  | format
  | output
  | minGrade
  | config
  deriving DecidableEq, Repr

/-- The options without value. -/
inductive Flag
  | breakdown
  | aggregate
  | help
  | version
  deriving DecidableEq, Repr

/-- An option. -/
inductive Switch
  | setting (setting : Setting)
  | flag (flag : Flag)
  deriving DecidableEq, Repr

/-- The option of a long name. -/
def Switch.ofName? (name : String) : Option Switch :=
  match name with
  | "package" => some (.setting .package)
  | "package-version" => some (.setting .packageVersion)
  | "api-url" => some (.setting .apiUrl)
  | "format" => some (.setting .format)
  | "output" => some (.setting .output)
  | "min-grade" => some (.setting .minGrade)
  | "config" => some (.setting .config)
  | "breakdown" => some (.flag .breakdown)
  | "aggregate" => some (.flag .aggregate)
  | "help" => some (.flag .help)
  | "version" => some (.flag .version)
  | _ => none

/-- The option of a letter. -/
def Switch.ofLetter? (letter : Char) : Option Switch :=
  match letter with
  | 'p' => some (.setting .package)
  | 'f' => some (.setting .format)
  | 'o' => some (.setting .output)
  | 'c' => some (.setting .config)
  | 'h' => some (.flag .help)
  | 'V' => some (.flag .version)
  | _ => none

/-- The value of a setting, in a place that has none yet. -/
def fill {α : Type} (place value : Option α) (fault : Fault) : Except Fault (Option α) :=
  if place.isSome then .error .conflict
  else if value.isNone then .error fault
  else .ok value

/-- A path; an empty one is none. -/
def path? (text : String) : Option String := if text = "" then none else some text

/-- Gives a setting its value. -/
def set (line : CommandLine) (text : String) : Setting → Except Fault CommandLine
  | .report => return { line with report := ← fill line.report (path? text) .emptyValue }
  | .package => return { line with package := ← fill line.package text .unfitValue }
  | .packageVersion =>
    return { line with packageVersion := ← fill line.packageVersion text .unfitValue }
  | .apiUrl => return { line with apiUrl := ← fill line.apiUrl text .unfitValue }
  | .format =>
    return { line with format := ← fill line.format (OutputFormat.ofName? text) .unfitValue }
  | .output => return { line with output := ← fill line.output (path? text) .emptyValue }
  | .minGrade =>
    return { line with minGrade := ← fill line.minGrade (Grade.ofName? text) .unfitValue }
  | .config => return { line with config := ← fill line.config (path? text) .emptyValue }

/-- Raises a flag. -/
def raise (line : CommandLine) : Flag → Except Stop CommandLine
  | .breakdown =>
    if line.breakdown then .error (.fault .conflict) else .ok { line with breakdown := true }
  | .aggregate =>
    if line.aggregate then .error (.fault .conflict) else .ok { line with aggregate := true }
  | .help => .error .help
  | .version => .error .version

/-- A setting that was met and not looked at, with its value if that was met too. -/
structure Pending where
  setting : Setting
  value : Option String
  deriving DecidableEq, Repr

/-- A command line that is read. -/
structure Progress where
  line : CommandLine
  pending : Option Pending
  /-- No option may follow. -/
  optionsOver : Bool
  deriving DecidableEq, Repr

namespace Progress

/-- Nothing is read. -/
def start : Progress := ⟨{}, none, false⟩

/-- Looks at the pending setting. -/
def settle (progress : Progress) : Except Stop CommandLine :=
  match progress.pending with
  | none => .ok progress.line
  | some ⟨_, none⟩ => .error (.fault .emptyValue)
  | some ⟨setting, some text⟩ => (progress.line.set text setting).mapError .fault

/-- Reads an option, with the value that is attached to it. -/
def readSetting (progress : Progress) (setting : Setting) (attached : Option String) :
    Except Stop Progress := do
  let line ← progress.settle
  match attached with
  | none => return { progress with line, pending := some ⟨setting, none⟩ }
  | some text =>
    let line ← (line.set text setting).mapError Stop.fault
    return { progress with line, pending := none }

/-- Reads an option without value. -/
def readFlag (progress : Progress) (flag : Flag) : Except Stop Progress := do
  let line ← progress.settle
  return { progress with line := ← line.raise flag, pending := none }

/-- Reads an option with a long name; a value may follow an equal sign. -/
def readLong (progress : Progress) (text : List Char) : Except Stop Progress :=
  let name := text.takeWhile (· ≠ '=')
  let attached :=
    match text.dropWhile (· ≠ '=') with
    | [] => none
    | _ :: value => some (String.ofList value)
  match Switch.ofName? (String.ofList name) with
  | none => .error (.fault .unknownArgument)
  | some (.setting setting) => progress.readSetting setting attached
  | some (.flag flag) =>
    if attached.isSome then .error (.fault .surplusValue) else progress.readFlag flag

/-- Reads options with letters. What follows the letter of a setting is its value, which an equal
sign may precede. -/
def readLetters (progress : Progress) : List Char → Except Stop Progress
  | [] => .ok progress
  | letter :: rest =>
    match Switch.ofLetter? letter with
    | none => .error (.fault .unknownArgument)
    | some (.flag flag) => do readLetters (← progress.readFlag flag) rest
    | some (.setting setting) =>
      let attached :=
        match rest with
        | [] => none
        | '=' :: value => some (String.ofList value)
        | value => some (String.ofList value)
      progress.readSetting setting attached

/-- The argument without option was met. -/
def hasReport (progress : Progress) : Bool :=
  progress.line.report.isSome || progress.pending.any (·.setting = .report)

/-- Reads an argument without option. -/
def readReport (progress : Progress) (argument : String) : Except Stop Progress :=
  if progress.hasReport then .error (.fault .unknownArgument)
  else do
    let line ← progress.settle
    return { progress with line, pending := some ⟨.report, some argument⟩ }

/-- Reads an argument. -/
def read (progress : Progress) (argument : String) : Except Stop Progress :=
  if progress.optionsOver then progress.readReport argument
  else
    match argument.toList with
    | ['-', '-'] => .ok { progress with optionsOver := true }
    | '-' :: '-' :: text => progress.readLong text
    | '-' :: letter :: letters => progress.readLetters (letter :: letters)
    | _ =>
      match progress.pending with
      | some ⟨setting, none⟩ => .ok { progress with pending := some ⟨setting, some argument⟩ }
      | _ => progress.readReport argument

end Progress

/-- Refuses two sources of the report, none, and a package without version. -/
def check (line : CommandLine) : Except Fault Unit :=
  match line.report, line.package, line.packageVersion with
  | some _, some _, _ => .error .conflict
  | none, none, _ => .error .missingArgument
  | none, some _, none => .error .missingArgument
  | _, _, _ => .ok ()

/-- The command line of the arguments after the name of the program. -/
def ofArguments (arguments : List String) : Except Stop CommandLine := do
  let progress ← arguments.foldlM Progress.read .start
  let line ← progress.settle
  line.check.mapError Stop.fault
  return line

end CommandLine

end PackageRisk
