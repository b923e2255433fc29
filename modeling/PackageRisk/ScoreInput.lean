import PackageRisk.Number.Decimal
import PackageRisk.VulnerabilityCounts

/-!
# What a score is computed from

The freshness of a package, the number of all its dependencies, and the vulnerabilities of the
package itself and of its dependencies.
-/

namespace PackageRisk

/-- Whether a vulnerability is in the package itself or in one of its dependencies. -/
inductive Scope
  | direct
  | indirect
  deriving DecidableEq, Repr

/-- The name of a scope, as keys of reports begin with it. -/
def Scope.name : Scope → String
  | .direct => "direct"
  | .indirect => "indirect"

/-- The facts that a score is computed from. The freshness is meant to lie between zero and one, but
any finite number is taken. -/
structure ScoreInput where
  freshness : Binary64
  allDependencies : Count
  direct : VulnerabilityCounts
  indirect : VulnerabilityCounts
  finite : freshness.isFinite = true
  deriving DecidableEq, Repr

namespace ScoreInput

/-- The vulnerabilities of a scope. -/
def vulnerabilities (input : ScoreInput) : Scope → VulnerabilityCounts
  | .direct => input.direct
  | .indirect => input.indirect

/-- The input of its facts, if the freshness is finite. -/
def ofFacts? (freshness : Binary64) (allDependencies : Count)
    (direct indirect : VulnerabilityCounts) : Option ScoreInput :=
  if finite : freshness.isFinite = true then
    some ⟨freshness, allDependencies, direct, indirect, finite⟩
  else none

/-- The name of the freshness in messages. -/
def freshnessField : String := "freshnessScore"

/-- The message for a freshness that is not finite. -/
def notFiniteMessage (freshness : Binary64) : String :=
  "must be a finite number, got " ++ Decimal.prose.write freshness

end ScoreInput

end PackageRisk
