import PackageRisk.Grade
import PackageRisk.ScoreInput

/-!
# Scores

The score of a package is a sum of terms: its freshness in percent, a term for the number of its
dependencies, and a penalty for every severity with a vulnerability, in the package itself and in
its dependencies. How many vulnerabilities there are does not matter, and low ones cost nothing.
-/

namespace PackageRisk

/-- A range of dependency counts with a term of its own. -/
inductive DependencyTier
  | tiny
  | small
  | huge
  | large
  deriving DecidableEq, Repr

namespace DependencyTier

/-- The tier of a number of dependencies; counts from 21 to 99 are in none. -/
def ofCount? (count : Count) : Option DependencyTier :=
  if count.val ≤ 5 then some tiny
  else if count.val ≤ 20 then some small
  else if 500 ≤ count.val then some huge
  else if 100 ≤ count.val then some large
  else none

/-- The term of a tier. -/
def points : DependencyTier → Points
  | tiny => .clamp 20
  | small => .clamp 10
  | huge => .clamp (-20)
  | large => .clamp (-10)

/-- The label of the term. -/
def label : DependencyTier → String
  | tiny => "All dependencies ≤ 5"
  | small => "All dependencies ≤ 20"
  | huge => "All dependencies ≥ 500"
  | large => "All dependencies ≥ 100"

end DependencyTier

namespace Penalty

/-- The severities that cost points, in the order of their terms. -/
def severities : List Severity := [.critical, .high, .medium]

/-- The term of a severity, if it costs points. -/
def points? : Scope → Severity → Option Points
  | .direct, .critical => some (.clamp (-20))
  | .direct, .high => some (.clamp (-10))
  | .direct, .medium => some (.clamp (-5))
  | .indirect, .critical => some (.clamp (-10))
  | .indirect, .high => some (.clamp (-7))
  | .indirect, .medium => some (.clamp (-3))
  | _, .low => none

/-- The label of the term. -/
def label : Scope → Severity → String
  | .direct, severity => severity.title ++ " vulnerabilities"
  | .indirect, severity => severity.title ++ " vulnerabilities in dependencies"

end Penalty

/-- A term of a score, as the explanation lists it. -/
structure Term where
  label : String
  points : Points
  deriving DecidableEq, Repr

/-- A score and its grade, with an explanation if one was asked for. -/
structure Score where
  total : Points
  grade : Grade
  /-- The terms in their order, and the total as the last entry. -/
  breakdown : Option (List Term)
  deriving DecidableEq, Repr

namespace Score

/-- The label of the term for the freshness. -/
def freshnessLabel : String := "Freshness score × 100"

/-- The label of the last entry of an explanation. -/
def totalLabel : String := "Total"

/-- The freshness in percent, rounded with halves away from zero. -/
def basePoints (freshness : Binary64) : Points :=
  .clamp (freshness.mul (.ofNat 100)).round

/-- The penalties for the vulnerabilities of a scope. -/
def penalties (scope : Scope) (counts : VulnerabilityCounts) : List Term :=
  Penalty.severities.filterMap fun severity ↦
    if counts.get severity = 0 then none
    else (Penalty.points? scope severity).map fun points ↦ ⟨Penalty.label scope severity, points⟩

/-- The term for the number of dependencies, if there is one. -/
def tierTerm (allDependencies : Count) : List Term :=
  (DependencyTier.ofCount? allDependencies).toList.map fun tier ↦ ⟨tier.label, tier.points⟩

/-- All terms of a score, in their order. -/
def terms (input : ScoreInput) : List Term :=
  ⟨freshnessLabel, basePoints input.freshness⟩ ::
    (tierTerm input.allDependencies ++ penalties .direct input.direct ++
      penalties .indirect input.indirect)

/-- The sum of terms, from the first to the last. -/
def sum (terms : List Term) : Points := terms.foldl (fun sum term ↦ sum + term.points) 0

/-- The score of an input. -/
def compute (input : ScoreInput) (wantsBreakdown : Bool) : Score :=
  let total := sum (terms input)
  { total
    grade := .ofScore total
    breakdown := if wantsBreakdown then some (terms input ++ [⟨totalLabel, total⟩]) else none }

end Score

end PackageRisk
