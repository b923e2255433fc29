import PackageRisk.Failure
import PackageRisk.FileSystem
import PackageRisk.OutputFormat
import PackageRisk.Yaml.Content

/-!
# Configuration files

A configuration file is a YAML mapping from names to values. Of the names that are not known a
warning is told, and the values of known ones have to be of the right kind.
-/

namespace PackageRisk

/-- What a configuration file gives. -/
structure Config where
  format : Option String := none
  breakdown : Option Bool := none
  aggregate : Option Bool := none
  minGrade : Option String := none
  apiUrl : Option String := none
  /-- The keys without meaning, in increasing order and each once. -/
  unknownKeys : List String := []
  deriving DecidableEq, Repr

/-- Why a value that was given for a setting is refused. -/
inductive SettingFault
  | format (text : String)
  | minGrade (text : String)
  | apiUrl (text : String)
  deriving DecidableEq, Repr

namespace SettingFault

/-- The message for a refused value. -/
def message : SettingFault → String
  | format text => "format: " ++ OutputFormat.unknownMessage text
  | minGrade text => "min_grade: " ++ Grade.unknownMessage text
  | apiUrl text =>
    "api_url must start with http:// or https:// (got '" ++ text ++
      "')\n\n💡 Hint: Use the base URL of the service, e.g. http://localhost:8000"

/-- The failure of a run for a refused value. -/
def failure (fault : SettingFault) : Failure := .context fault.message []

end SettingFault

namespace Config

/-- The format of a name. -/
def readFormat (text : String) : Except SettingFault OutputFormat :=
  match OutputFormat.ofName? text with
  | some format => .ok format
  | none => .error (.format text)

/-- The grade of a name. -/
def readGrade (text : String) : Except SettingFault Grade :=
  match Grade.ofName? text with
  | some grade => .ok grade
  | none => .error (.minGrade text)

/-- Refuses an address of the service with another scheme than the two of the web. -/
def checkUrl (text : String) : Except SettingFault Unit :=
  if "http://".toList.isPrefixOf text.toList || "https://".toList.isPrefixOf text.toList then
    .ok ()
  else .error (.apiUrl text)

/-- Refuses the first value that its setting does not take. -/
def check (config : Config) : Except SettingFault Unit := do
  let _ ← config.format.mapM readFormat
  let _ ← config.minGrade.mapM readGrade
  let _ ← config.apiUrl.mapM checkUrl

/-- The keys with a meaning. -/
def knownKeys : List String := ["format", "breakdown", "aggregate", "min_grade", "api_url"]

/-- The text of a scalar, whatever its tag and its style. -/
def keyOf? : Yaml.Value → Option String
  | .scalar _ _ text => some (String.ofList text)
  | _ => none

/-- The scalar leaves its setting open: it is plain and spells null. A tag that says that it is null
has to be right. -/
def isOpen? (tag : Option Yaml.Tag) (style : Yaml.Style) (text : List Char) : Option Bool :=
  if style ≠ .plain then some false
  else
    match tag with
    | none => some (text.isEmpty || Yaml.isNullWord text)
    | some .null => if Yaml.isNullWord text then some true else none
    | some _ => some false

/-- The setting that a value gives, if it is a scalar and `read` takes it. -/
def setting? {α : Type} (read : Option Yaml.Tag → Yaml.Style → List Char → Option α) :
    Option Yaml.Value → Option (Option α)
  | none => some none
  | some (.scalar tag style text) => do
    if ← isOpen? tag style text then some none else (read tag style text).map some
  | some _ => none

/-- Every scalar gives its text. -/
def readText (_ : Option Yaml.Tag) (_ : Yaml.Style) (text : List Char) : Option String :=
  some (String.ofList text)

/-- Plain scalars give a truth value, and literal ones with the tag for that. -/
def readFlag (tag : Option Yaml.Tag) (style : Yaml.Style) (text : List Char) : Option Bool :=
  if style = .plain || (style = .literal && tag = some .boolean) then Yaml.boolean? text else none

/-- A list without repetitions. -/
def areDistinct : List String → Bool
  | [] => true
  | key :: rest => !rest.contains key && areDistinct rest

/-- Adds a key to keys in increasing order, unless it is there. -/
def insertKey (key : String) : List String → List String
  | [] => [key]
  | other :: rest =>
    if key < other then key :: other :: rest
    else if key = other then other :: rest
    else other :: insertKey key rest

/-- What the members of a mapping give. A known key may stand only once; what stands under the
others has to mean something. -/
def ofMembers? (members : List (String × Yaml.Value)) : Option Config := do
  let isKnown (member : String × Yaml.Value) : Bool := knownKeys.contains member.1
  if !areDistinct ((members.filter isKnown).map (·.1)) then none
  let unknown := members.filter (!isKnown ·)
  if !unknown.all (·.2.content?.isSome) then none
  return {
    format := ← setting? readText (members.lookup "format")
    breakdown := ← setting? readFlag (members.lookup "breakdown")
    aggregate := ← setting? readFlag (members.lookup "aggregate")
    minGrade := ← setting? readText (members.lookup "min_grade")
    apiUrl := ← setting? readText (members.lookup "api_url")
    unknownKeys := (unknown.map (·.1)).foldr insertKey [] }

/-- What a YAML text gives: all is left open if there is no document or an empty one. -/
def ofText? (text : String) : Option Config := do
  match ← Yaml.Value.ofText? text.toList with
  | none => return {}
  | some (.scalar _ .plain []) => return {}
  | some (.mapping _ entries) =>
    ofMembers? (← entries.mapM fun (key, value) ↦ do return (← keyOf? key, value))
  | some _ => none

/-- The configuration in a file. -/
def load (fs : FileSystem) (path : String) : Except Failure Config :=
  match fs.readText path with
  | .error error =>
    .error (.context ("Failed to read config file: " ++ path ++
      "\n\n💡 Hint: Check that the file exists and is readable.") [error.message])
  | .ok text =>
    match ofText? text with
    | none =>
      .error (.context ("Failed to parse config file: " ++ path ++
        "\n\n💡 Hint: Ensure the file contains valid YAML syntax.") [])
    | some config =>
      match config.check with
      | .error fault => .error (.context ("Invalid config file: " ++ path) [fault.message])
      | .ok () => .ok config

/-- The name of the configuration file of a directory. -/
def fileName : String := "depscore.config.yml"

/-- The configuration of a directory, if it has such a file. -/
def discover (fs : FileSystem) (directory : String) : Except Failure (Option Config) :=
  let path := Path.join directory fileName
  if fs.pathExists path then (load fs path).map some else .ok none

/-- The warnings for the keys without meaning. -/
def warnings (config : Config) : List String :=
  config.unknownKeys.map fun key ↦
    "⚠️  Warning: Unknown config field '" ++ key ++ "' will be ignored."

end Config

end PackageRisk
