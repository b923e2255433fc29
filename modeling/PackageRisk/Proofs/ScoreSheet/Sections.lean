import PackageRisk.ScoreSheet.Markdown

/-!
# Sections of a Markdown sheet

A sheet is one section after the other, and every section is a block of whole lines of the text.
-/

namespace PackageRisk.ScoreSheet.Markdown

/-- A table row of two cells. -/
theorem row_pair (left right : String) :
    row [left, right] = "| " ++ left ++ " | " ++ right ++ " |" := by
  simp only [row, String.intercalate_cons_cons, String.intercalate_singleton, String.append_assoc]

/-- Lines are joined part by part. -/
theorem unlines_append (lines more : List String) :
    unlines (lines ++ more) = unlines lines ++ unlines more := by
  rw [unlines, List.map_append, String.join_append]
  rfl

/-- The line of the score card that tells the score. -/
def scoreLine (card : PackageCard) : String :=
  "- **Score:** " ++ (card.total.text ++ " (grade **" ++ card.grade ++ "**, `" ++
    card.gradeClass ++ "`)")

/-- The score is the first of the facts. -/
theorem facts_eq (card : PackageCard) : ∃ rest, facts card = scoreLine card :: rest := by
  have hlabel : "- **" ++ "Score" ++ ":** " = "- **Score:** " := by decide
  refine ⟨(facts card).tail, ?_⟩
  simp only [facts, fact, hlabel, scoreLine, List.cons_append, List.nil_append, List.tail_cons]

/-- The explanation of the score is a block of lines of the sheet, somewhere after the score. -/
theorem lines_eq_of_breakdown {sheet : ScoreSheet} {entries : List Term}
    (h : sheet.package.breakdown = some entries) : ∃ before between after,
      lines sheet =
        before ++ [scoreLine sheet.package] ++ between ++ breakdown entries ++ after := by
  obtain ⟨rest, hfacts⟩ := facts_eq sheet.package
  refine ⟨header sheet.imprint ++
      ["## " ++ packageLink sheet.package.name ++ "@" ++ sheet.package.version, ""],
    rest ++ [""] ++ vulnerabilities sheet.package.direct sheet.package.indirect,
    dependencies sheet.dependencies ++ distribution sheet.distribution ++
      (sheet.gate.map (gate sheet.package.grade)).getD [], ?_⟩
  rw [lines, package, h, hfacts]
  simp only [Option.map_some, Option.getD_some, List.append_assoc, List.cons_append,
    List.nil_append]

/-- The last row of an explanation is that of the total. -/
theorem breakdownRows_cons (entry : Term) (rest : List Term) :
    breakdownRows (entry :: rest) =
      (if rest.isEmpty then totalRow entry else termRow entry) :: breakdownRows rest := by
  cases rest <;> rfl

/-- The table of the grades is a block of lines of the sheet. -/
theorem distribution_infix_lines (sheet : ScoreSheet) :
    distribution sheet.distribution <:+: lines sheet :=
  List.infix_append ..

/-- A sheet ends with its check for a minimum grade, and is without it the sheet without check. -/
theorem render_eq (sheet : ScoreSheet) :
    render sheet = render { sheet with gate := none } ++
      unlines ((sheet.gate.map (gate sheet.package.grade)).getD []) := by
  rw [render, lines, unlines_append, render, lines]
  simp

end PackageRisk.ScoreSheet.Markdown
