import PackageRisk.ScoreInput

/-!
# Banners

A banner warns of vulnerabilities, whatever the score: a critical or high one makes it fail, else a
medium one makes it warn, else a low one makes it inform.
-/

namespace PackageRisk

/-- The level of an alert, gravest first. -/
inductive Banner
  | fail
  | warn
  | info
  deriving DecidableEq, Repr

namespace Banner

/-- The name of the level, which is also its style class. -/
def name : Banner → String
  | fail => "fail"
  | warn => "warn"
  | info => "info"

/-- The sign of the level. -/
def icon : Banner → String
  | fail => "❌"
  | warn => "⚠️"
  | info => "ℹ️"

/-- The banner of vulnerability counts, if there is any vulnerability. -/
def ofCounts? (counts : VulnerabilityCounts) : Option Banner :=
  if counts.get .critical ≠ 0 ∨ counts.get .high ≠ 0 then some fail
  else if counts.get .medium ≠ 0 then some warn
  else if counts.get .low ≠ 0 then some info
  else none

/-- The banner of a package, over its own vulnerabilities and those of its dependencies. -/
def ofInput? (input : ScoreInput) : Option Banner := ofCounts? (input.direct + input.indirect)

end Banner

end PackageRisk
