import PackageRisk.CommandLine
import PackageRisk.Config
import PackageRisk.Service

/-!
# Settings of a run

The command line comes before the configuration, and the configuration before what holds if neither
says anything. A flag is raised if either raises it.
-/

namespace PackageRisk

/-- What holds for a run. -/
structure Settings where
  format : OutputFormat
  breakdown : Bool
  aggregate : Bool
  minGrade : Option Grade
  apiUrl : String
  deriving DecidableEq, Repr

namespace Settings

/-- The format of the command line, or else of the configuration, or else Markdown. -/
def resolveFormat (line : CommandLine) (config : Config) : Except SettingFault OutputFormat :=
  match line.format, config.format with
  | some format, _ => .ok format
  | none, some text => Config.readFormat text
  | none, none => .ok .markdown

/-- The worst grade that passes, of the command line or else of the configuration. -/
def resolveGrade (line : CommandLine) (config : Config) : Except SettingFault (Option Grade) :=
  match line.minGrade, config.minGrade with
  | some grade, _ => .ok (some grade)
  | none, some text => (Config.readGrade text).map some
  | none, none => .ok none

/-- The settings of a command line and a configuration. A value of the configuration that the
command line replaces is not looked at. -/
def resolve (line : CommandLine) (config : Config) : Except SettingFault Settings := do
  let format ← resolveFormat line config
  let minGrade ← resolveGrade line config
  let apiUrl := (line.apiUrl <|> config.apiUrl).getD Service.defaultUrl
  Config.checkUrl apiUrl
  return {
    format
    breakdown := line.breakdown || config.breakdown.getD false
    aggregate := line.aggregate || config.aggregate.getD false
    minGrade
    apiUrl }

/-- What the settings ask of an assessment. -/
def request (settings : Settings) : Request :=
  ⟨settings.breakdown, settings.aggregate, settings.minGrade⟩

end Settings

end PackageRisk
