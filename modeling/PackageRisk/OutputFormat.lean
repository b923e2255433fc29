import PackageRisk.ScoreSheet.Json
import PackageRisk.ScoreSheet.Markdown

/-!
# Output formats

A sheet is rendered for people, in Markdown, or for programs, in JSON.
-/

namespace PackageRisk

/-- The format of a rendered report. -/
inductive OutputFormat
  | json
  | markdown
  deriving DecidableEq, Repr

namespace OutputFormat

/-- The name of a format. -/
def name : OutputFormat → String
  | json => "json"
  | markdown => "markdown"

/-- The format of a name, in any case and blanks around it aside; "md" is Markdown too. -/
def ofName? (text : String) : Option OutputFormat :=
  let folded := String.ofList (Text.lower (Text.trim text.toList))
  if folded = "json" then some json
  else if folded = "markdown" ∨ folded = "md" then some markdown
  else none

/-- The message for a text that names no format. -/
def unknownMessage (text : String) : String :=
  "Invalid format: " ++ text ++ ". Please specify 'json' or 'markdown'"

/-- What is told before a sheet is rendered. -/
def progressMessage : OutputFormat → String
  | json => "📝 Rendering JSON score report..."
  | markdown => "📝 Rendering Markdown score report..."

/-- The text of a sheet in a format. -/
def render : OutputFormat → ScoreSheet → String
  | json, sheet => sheet.toJson.document
  | markdown, sheet => ScoreSheet.Markdown.render sheet

end OutputFormat

end PackageRisk
