import PackageRisk.Number.Points
import PackageRisk.Text.Blank
import PackageRisk.Text.CaseMap

/-!
# Grades

A grade is the letter of a score: from 80 points A, from 60 B, from 40 C, from 20 D, and E below.
-/

namespace PackageRisk

/-- The grade of a package, best first. -/
inductive Grade
  | a
  | b
  | c
  | d
  | e
  deriving DecidableEq, Repr

namespace Grade

/-- All grades, best first. -/
def all : List Grade := [a, b, c, d, e]

/-- The place among all grades, counted from the best. -/
def rank : Grade → Nat
  | a => 0
  | b => 1
  | c => 2
  | d => 3
  | e => 4

/-- The capital letter. -/
def letter : Grade → String
  | a => "A"
  | b => "B"
  | c => "C"
  | d => "D"
  | e => "E"

/-- The small letter, which ends the name of the grade's style class. -/
def styleSuffix : Grade → String
  | a => "a"
  | b => "b"
  | c => "c"
  | d => "d"
  | e => "e"

/-- The style class of the grade. -/
def styleClass (grade : Grade) : String := "score-" ++ grade.styleSuffix

/-- The first grade comes later in the order of grades. -/
def isWorseThan (grade other : Grade) : Bool := other.rank < grade.rank

/-- The grade of a letter of either case, blanks around it aside. -/
def ofName? (text : String) : Option Grade :=
  let folded := String.ofList (Text.upper (Text.trim text.toList))
  if folded = "A" then some a
  else if folded = "B" then some b
  else if folded = "C" then some c
  else if folded = "D" then some d
  else if folded = "E" then some e
  else none

/-- The message for a text that names no grade. -/
def unknownMessage (text : String) : String :=
  "Invalid grade: " ++ text ++ ". Expected one of A, B, C, D, E"

/-- The grade of a score. -/
def ofScore (score : Points) : Grade :=
  if 80 ≤ score.val then a
  else if 60 ≤ score.val then b
  else if 40 ≤ score.val then c
  else if 20 ≤ score.val then d
  else e

/-- Every grade is in the list of all. -/
theorem mem_all (grade : Grade) : grade ∈ all := by
  cases grade <;> decide

end Grade

end PackageRisk
