import PackageRisk.Grade

/-!
# Summaries

The last line of a run tells the score and the grade of the package. On a terminal the grade is
written in bold, in the color of a traffic light.
-/

namespace PackageRisk.Summary

/-- A control sequence that sets how terminals write. -/
def control (code : String) : String := "\x1b[" ++ code ++ "m"

/-- The code of the color of a grade: green, yellow or red. -/
def colorCode : Grade → String
  | .a | .b => "32"
  | .c => "33"
  | .d | .e => "31"

/-- A text in bold and in the color of a grade. -/
def paint (grade : Grade) (text : String) : String :=
  control "1" ++ control (colorCode grade) ++ text ++ control "39" ++ control "0"

/-- The summary of the score of a package. -/
def line (package : String) (total : Points) (grade : Grade) (colors : Bool) : String :=
  let label := "grade " ++ grade.letter
  "🏁 " ++ package ++ ": score " ++ total.text ++ ", " ++
    if colors then paint grade label else label

end PackageRisk.Summary
